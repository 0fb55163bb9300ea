import PageCompiler.Text.CaseTable

/-!
# Letter case

`lower` and `upper` are the full case mappings: a character may turn into several (`İ` has a small
form of two characters, `ß` the capital form `SS`), and a capital sigma becomes the final form `ς`
at the end of a word. ASCII letters take the short way and never reach the tables.

`foldsTo` compares a character with a small ASCII letter regardless of case. Two letters have more
partners than their capital there: `i` also stands for `İ` and `ı`, and `s` for the long `ſ`.
-/

namespace PageCompiler.Text

/-- Capital sigma, the one letter whose small form depends on its neighbours. -/
def capitalSigma : Char := 'Σ'

/-- The small form of any character but the capital sigma. -/
def lowerChar (c : Char) : List Char :=
  if c.toNat < 0x80 then [c.toLower]
  else if c = 'İ' then ['i', Char.ofNat 0x307]
  else [Char.ofNat (Shift.apply lowerShifts c.toNat)]

/-- The capital form of a character. -/
def upperChar (c : Char) : List Char :=
  if c.toNat < 0x80 then [c.toUpper]
  else
    match upperExpansions.lookup c.toNat with
    | some codes => codes.map Char.ofNat
    | none => [Char.ofNat (Shift.apply upperShifts c.toNat)]

/-- The nearest character that counts is a letter with case. -/
def meetsLetter (cs : List Char) : Bool :=
  match cs.dropWhile (passedOverSpans.mem ·) with
  | [] => false
  | c :: _ => casedSpans.mem c

/-- The small form of a sigma, given the characters before it (nearest first) and after it. -/
def lowerSigma (before after : List Char) : Char :=
  if meetsLetter before && !meetsLetter after then 'ς' else 'σ'

/-- Lower case, given the characters before, nearest first. -/
def lowerAfter (before : List Char) : List Char → List Char
  | [] => []
  | c :: rest =>
    (if c = capitalSigma then [lowerSigma before rest] else lowerChar c) ++
      lowerAfter (c :: before) rest

/-- The text in small letters. -/
def lower (text : String) : String :=
  String.ofList (lowerAfter [] text.toList)

/-- The text in capitals. -/
def upper (text : String) : String :=
  String.ofList (text.toList.flatMap upperChar)

/-- The character stands for the small ASCII letter `letter` when case is ignored. -/
def foldsTo (letter c : Char) : Bool :=
  c == letter || (c.toNat < 0x80 && c.toLower == letter) ||
    (letter == 'i' && (c == 'İ' || c == 'ı')) || (letter == 's' && c == 'ſ')

/-! ## ASCII text -/

theorem lowerChar_ascii {c : Char} (h : c.toNat < 0x80) : lowerChar c = [c.toLower] := by
  simp [lowerChar, h]

theorem lowerAfter_ascii {cs : List Char} (h : ∀ c ∈ cs, c.toNat < 0x80) (before : List Char) :
    lowerAfter before cs = cs.map Char.toLower := by
  induction cs generalizing before with
  | nil => rfl
  | cons c rest ih =>
    have hc : c.toNat < 0x80 := h c List.mem_cons_self
    have hs : c ≠ capitalSigma := by
      rintro rfl
      exact absurd hc (by decide)
    simp [lowerAfter, hs, lowerChar_ascii hc, ih (fun d hd => h d (List.mem_cons_of_mem _ hd))]

end PageCompiler.Text
