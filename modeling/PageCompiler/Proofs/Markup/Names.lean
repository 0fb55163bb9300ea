import PageCompiler.Markup.Events

/-!
# Plain names

A plain name is a letter followed by letters, digits and hyphens. Every reader takes such a name
whole and stops at what can follow it, since each of its characters goes on with the name of a tag,
of an attribute, of an end tag (`nameChar_reads`) and none is a blank or a delimiter. There are only
ASCII characters in it, so the facts are checked code point by code point, and small letters are
those of ASCII (`lower_ascii`).
-/

namespace PageCompiler.Markup

/-- A letter, a digit or a hyphen. -/
def isNameChar (c : Char) : Bool :=
  isLetter c || isDigit c || c == '-'

/-- A letter and then letters, digits and hyphens. -/
def IsName (chars : List Char) : Prop :=
  ∃ c rest, chars = c :: rest ∧ isLetter c ∧ ∀ d ∈ rest, isNameChar d

instance : DecidablePred IsName
  | [] => .isFalse (by rintro ⟨c, rest, h, -⟩; cases h)
  | c :: rest => decidable_of_iff (isLetter c ∧ rest.all isNameChar) <| by
    rw [List.all_eq_true]
    constructor
    · exact fun h => ⟨c, rest, rfl, h⟩
    · rintro ⟨d, more, h, hname⟩
      obtain ⟨rfl, rfl⟩ := List.cons.inj h
      exact hname

/-- What holds of the first 128 characters holds of every ASCII character. -/
theorem forall_ascii {P : Char → Prop} (h : ∀ n < 128, P (Char.ofNat n)) {c : Char}
    (hc : c.toNat < 128) : P c :=
  Char.ofNat_toNat c ▸ h c.toNat hc

theorem ascii_of_le {c d : Char} (h : c ≤ d) (hd : d.toNat < 128) : c.toNat < 128 :=
  Nat.lt_of_le_of_lt (UInt32.le_iff_toNat_le.1 (Char.le_def.1 h)) hd

theorem isLetter_ascii {c : Char} (h : isLetter c) : c.toNat < 128 := by
  simp only [isLetter, Bool.or_eq_true, Bool.and_eq_true, decide_eq_true_eq] at h
  rcases h with h | h
  · exact ascii_of_le h.2 (by decide)
  · exact ascii_of_le h.2 (by decide)

theorem isDigit_ascii {c : Char} (h : isDigit c) : c.toNat < 128 := by
  simp only [isDigit, Bool.and_eq_true, decide_eq_true_eq] at h
  exact ascii_of_le h.2 (by decide)

theorem isNameChar_ascii {c : Char} (h : isNameChar c) : c.toNat < 128 := by
  simp only [isNameChar, Bool.or_eq_true, beq_iff_eq] at h
  rcases h with (h | h) | rfl
  · exact isLetter_ascii h
  · exact isDigit_ascii h
  · decide

theorem isNameChar_of_isLetter {c : Char} (h : isLetter c) : isNameChar c := by
  simp [isNameChar, h]

/-- Every reader of names goes on at a character of a plain name. -/
theorem nameChar_reads {c : Char} (h : isNameChar c) :
    isTagNameChar c ∧ isAttributeNameChar c ∧ isEndTagNameChar c ∧ Text.isBlank c = false :=
  forall_ascii (P := fun c => isNameChar c → isTagNameChar c ∧ isAttributeNameChar c ∧
    isEndTagNameChar c ∧ Text.isBlank c = false) (by decide +kernel) (isNameChar_ascii h) h

/-- A letter begins an attribute and is none of the signs between the parts of markup. -/
theorem letter_begins {c : Char} (h : isLetter c) :
    isAttributeStart c ∧ c ≠ '#' ∧ c ≠ '/' ∧ c ≠ '=' ∧ c.toLower ≠ '#' :=
  forall_ascii (P := fun c => isLetter c → isAttributeStart c ∧ c ≠ '#' ∧ c ≠ '/' ∧ c ≠ '=' ∧
    c.toLower ≠ '#') (by decide +kernel) (isLetter_ascii h) h

namespace IsName

variable {chars : List Char}

theorem nameChar (h : IsName chars) : ∀ c ∈ chars, isNameChar c := by
  obtain ⟨c, rest, rfl, hc, hrest⟩ := h
  intro d hd
  rcases List.mem_cons.1 hd with rfl | hd
  · exact isNameChar_of_isLetter hc
  · exact hrest d hd

theorem ascii (h : IsName chars) : ∀ c ∈ chars, c.toNat < 128 :=
  fun c hc => isNameChar_ascii (h.nameChar c hc)

end IsName

/-! ## Small letters -/

theorem toLower_eq_self {c : Char} (hc : c.toNat < 128) (h : c.isUpper = false) : c.toLower = c :=
  forall_ascii (P := fun c => c.isUpper = false → c.toLower = c) (by decide +kernel) hc h

theorem lower_ascii {chars : List Char} (h : ∀ c ∈ chars, c.toNat < 128) :
    Text.lower (String.ofList chars) = String.ofList (chars.map Char.toLower) := by
  rw [Text.lower, String.toList_ofList, Text.lowerAfter_ascii h]

/-- In small letters a plain name is as long as before. -/
theorem length_lower {chars : List Char} (h : IsName chars) :
    (Text.lower (String.ofList chars)).length = chars.length := by
  rw [lower_ascii h.ascii, String.length_ofList, List.length_map]

/-- A text that begins with a letter does so in small letters. -/
theorem lower_cons_ne {c : Char} (h : isLetter c) (rest : List Char) {text : String}
    (ht : text.toList.head? = some '#') : Text.lower (String.ofList (c :: rest)) ≠ text := by
  have hs : c ≠ Text.capitalSigma := by
    rintro rfl
    exact absurd (isLetter_ascii h) (by decide)
  rintro rfl
  rw [Text.lower, String.toList_ofList, String.toList_ofList, Text.lowerAfter, if_neg hs,
    Text.lowerChar_ascii (isLetter_ascii h)] at ht
  exact (letter_begins h).2.2.2.2 (Option.some.inj ht)

end PageCompiler.Markup
