import PageCompiler.Json.Printer
import PageCompiler.Json.Reader

/-!
# Texts read back

A text between quotes is read back whichever way its characters are spelled, in both manners and
with anything behind it (`readText_flatMap`). One has to look at a single character : plain, behind
a backslash, by its UTF-16 unit, or by the two units of a surrogate pair (`Spells`).
-/

namespace PageCompiler.Json

/-! ## Hexadecimal digits -/

theorem hexValue?_hexDigit : ∀ n < 16, hexValue? (Text.hexDigit n) = some n := by
  decide

theorem hexDigits_four (n : Nat) :
    Text.hexDigits 4 n =
      [Text.hexDigit (n / 16 / 16 / 16 % 16), Text.hexDigit (n / 16 / 16 % 16),
        Text.hexDigit (n / 16 % 16), Text.hexDigit (n % 16)] :=
  rfl

/-- Four digits are enough for a UTF-16 unit. -/
theorem hexQuad?_hexDigits {n : Nat} (hn : n < 0x10000) (rest : List Char) :
    hexQuad? (Text.hexDigits 4 n ++ rest) = some n := by
  have hdigit : ∀ k, hexValue? (Text.hexDigit (k % 16)) = some (k % 16) :=
    fun k => hexValue?_hexDigit _ (Nat.mod_lt _ (by decide))
  have hvalue : ((n / 16 / 16 / 16 % 16 * 16 + n / 16 / 16 % 16) * 16 + n / 16 % 16) * 16 + n % 16 =
      n := by
    omega
  rw [hexDigits_four]
  simp only [List.cons_append, List.nil_append, hexQuad?, hdigit]
  exact congrArg some hvalue

theorem escapeNumber_hexDigits {n : Nat} (hn : n < 0x10000) (next : Char) (rest : List Char) :
    escapeNumber (Text.hexDigits 4 n ++ next :: rest) = .ok n := by
  have hdrop : (Text.hexDigits 4 n ++ next :: rest).drop 4 = next :: rest := rfl
  simp only [escapeNumber, hexQuad?_hexDigits hn, hdrop, List.isEmpty_cons]
  rfl

/-! ## One character -/

/-- The reader takes these characters for `c`, whatever follows within the text. -/
def Spells (manner : Manner) (chars : List Char) (c : Char) : Prop :=
  ∀ (opening : Nat) (next : Char) (rest : List Char),
    readText manner opening 0 (chars ++ next :: rest) =
      (readText manner opening 0 (next :: rest)).map fun r => (c :: r.1, r.2)

theorem readText_skip (manner : Manner) (opening : Nat) : ∀ chars rest : List Char,
    readText manner opening chars.length (chars ++ rest) = readText manner opening 0 rest
  | [], _ => rfl
  | _ :: chars, rest => by
    rw [List.length_cons, List.cons_append, readText, readText_skip manner opening chars rest]

variable {manner : Manner} {c : Char}

theorem spells_self (hquote : c ≠ '"') (hslash : c ≠ '\\') (hc : 0x20 ≤ c.toNat) :
    Spells manner [c] c := by
  intro opening next rest
  rw [List.singleton_append, readText]
  · exact if_neg (by omega)
  · exact fun h => hquote h
  · exact fun h => hslash h

theorem simpleEscape?_of_escapeLetter? {letter : Char} (h : escapeLetter? c = some letter) :
    simpleEscape? letter = some c ∧ letter ≠ 'u' := by
  unfold escapeLetter? at h
  split at h
  all_goals first
    | obtain rfl := Option.some.inj h; exact ⟨rfl, by decide⟩
    | cases h

theorem spells_letter {letter : Char} (h : escapeLetter? c = some letter) :
    Spells manner ['\\', letter] c := by
  obtain ⟨hsimple, hu⟩ := simpleEscape?_of_escapeLetter? h
  intro opening next rest
  have hskip := readText_skip manner opening [letter] (next :: rest)
  simp only [List.cons_append, List.nil_append, List.length_singleton] at hskip ⊢
  rw [readText, hsimple]
  · simp only [hskip]
  · exact fun he => hu he

/-- An escape by number is read as a whole. -/
theorem readText_unicodeEscape {digits rest : List Char} (opening : Nat)
    (h : unicodeEscape manner (digits ++ rest) = .ok (c, digits.length)) :
    readText manner opening 0 ('\\' :: 'u' :: (digits ++ rest)) =
      (readText manner opening 0 rest).map fun r => (c :: r.1, r.2) := by
  have hskip := readText_skip manner opening ('u' :: digits) rest
  rw [List.length_cons, List.cons_append] at hskip
  rw [readText, h]
  simp only [hskip]

theorem length_hexDigits (n : Nat) : (Text.hexDigits 4 n).length = 4 :=
  rfl

theorem spells_unitEscape (hc : c.toNat < 0x10000) : Spells manner (unitEscape c.toNat) c := by
  intro opening next rest
  have hhigh : isHighHalf c.toNat = false := by
    have := c.valid
    simp only [UInt32.isValidChar, Nat.isValidChar] at this
    simp only [isHighHalf, Bool.and_eq_false_iff, decide_eq_false_iff_not, Char.toNat]
    omega
  have hlow : isLowHalf c.toNat = false := by
    have := c.valid
    simp only [UInt32.isValidChar, Nat.isValidChar] at this
    simp only [isLowHalf, Bool.and_eq_false_iff, decide_eq_false_iff_not, Char.toNat]
    omega
  refine readText_unicodeEscape opening ?_
  rw [unicodeEscape, escapeNumber_hexDigits hc, length_hexDigits]
  simp [hhigh, hlow]

/-- Both halves of a surrogate pair are read together. -/
theorem spells_pair (hc : 0x10000 ≤ c.toNat) :
    Spells manner (unitEscape (0xD800 + (c.toNat - 0x10000) / 0x400) ++
      unitEscape (0xDC00 + (c.toNat - 0x10000) % 0x400)) c := by
  intro opening next rest
  have hbound : c.toNat < 0x110000 := by
    have := c.valid
    simp only [UInt32.isValidChar, Nat.isValidChar, Char.toNat] at this ⊢
    omega
  generalize hh : 0xD800 + (c.toNat - 0x10000) / 0x400 = high
  generalize hl : 0xDC00 + (c.toNat - 0x10000) % 0x400 = low
  have hhigh : isHighHalf high = true := by
    simp only [isHighHalf, Bool.and_eq_true, decide_eq_true_eq]
    omega
  have hlow : isLowHalf low = true := by
    simp only [isLowHalf, Bool.and_eq_true, decide_eq_true_eq]
    omega
  have hjoin : Char.ofNat (joinHalves high low) = c := by
    have hsum : joinHalves high low = c.toNat := by
      unfold joinHalves
      omega
    rw [hsum, Char.ofNat_toNat]
  have hfirst : escapeNumber (Text.hexDigits 4 high ++
      '\\' :: 'u' :: (Text.hexDigits 4 low ++ next :: rest)) = .ok high :=
    escapeNumber_hexDigits (by omega) _ _
  have hsecond : escapeNumber (Text.hexDigits 4 low ++ next :: rest) = .ok low :=
    escapeNumber_hexDigits (by omega) _ _
  have hdrop : (Text.hexDigits 4 high ++
      '\\' :: 'u' :: (Text.hexDigits 4 low ++ next :: rest)).drop 4 =
        '\\' :: 'u' :: (Text.hexDigits 4 low ++ next :: rest) := rfl
  have hread : unicodeEscape manner
      ((Text.hexDigits 4 high ++ unitEscape low) ++ next :: rest) = .ok (c, 10) := by
    rw [unitEscape, List.append_assoc, List.cons_append, List.cons_append, unicodeEscape, hfirst]
    simp only [hhigh, if_true, hdrop, hsecond, hlow, hjoin]
  rw [List.append_assoc, unitEscape, List.cons_append, List.cons_append, ← List.append_assoc]
  exact readText_unicodeEscape opening hread

theorem spells_plainChar (manner : Manner) (c : Char) : Spells manner (plainChar c) c := by
  unfold plainChar
  split
  · next letter h => exact spells_letter h
  · next h =>
    split
    · exact spells_unitEscape (by omega)
    · refine spells_self ?_ ?_ (by omega) <;> rintro rfl <;> cases h

theorem spells_asciiChar (manner : Manner) (c : Char) : Spells manner (asciiChar c) c := by
  unfold asciiChar
  split
  · next letter h => exact spells_letter h
  · next h =>
    split
    · refine spells_self ?_ ?_ (by omega) <;> rintro rfl <;> cases h
    · split
      · next hc => exact spells_unitEscape hc
      · exact spells_pair (by omega)

/-! ## Whole texts -/

/-- A text is read up to its closing quote. -/
theorem readText_flatMap {spell : Char → List Char} (hspell : ∀ c, Spells manner (spell c) c)
    (opening : Nat) (rest : List Char) : ∀ value : List Char,
      readText manner opening 0 (value.flatMap spell ++ '"' :: rest) = .ok (value, rest)
  | [] => by
    rw [List.flatMap_nil, List.nil_append, readText]
  | c :: value => by
    have ih := readText_flatMap hspell opening rest value
    rw [List.flatMap_cons, List.append_assoc]
    -- the closing quote or a later character stands behind each character
    obtain ⟨next, more, hnext⟩ : ∃ next more, value.flatMap spell ++ '"' :: rest = next :: more :=
      List.exists_cons_of_ne_nil (by simp)
    rw [hnext] at ih ⊢
    rw [hspell c opening next more, ih]
    rfl

theorem toList_quote (spell : Char → List Char) (value : String) :
    (quote spell value).toList = '"' :: (value.toList.flatMap spell ++ ['"']) := by
  rw [quote, String.toList_ofList]
  rfl

/-- Joined parts are the first one and the others, each behind a separator. -/
theorem intercalate_cons (separator first : List Char) : ∀ rest : List (List Char),
    separator.intercalate (first :: rest) = first ++ rest.flatMap fun part => separator ++ part
  | [] => by rw [List.intercalate_singleton, List.flatMap_nil, List.append_nil]
  | second :: rest => by
    rw [List.intercalate_cons_cons, intercalate_cons separator second rest, List.flatMap_cons]
    simp only [List.append_assoc]

end PageCompiler.Json
