import PageCompiler.Markup.Event
import PageCompiler.Text.Cut

/-!
# References in text

Between the tags an `&` may begin a reference. A reference in text is not replaced; only its extent
is found, so that it can be written back.

A number runs over its digits and needs a character behind it that is no hexadecimal digit. A name
runs over letters, digits, hyphens and points and needs a character behind it; at the end of the
text its own last hyphen or point serves. A semicolon behind a reference belongs to it.
-/

namespace PageCompiler.Markup

/-- The number at the front, decimal or behind an `x` hexadecimal, and the rest. -/
def splitNumber? (text : List Char) : Option (List Char × List Char) :=
  if text.takeWhile isDigit ≠ [] then some (text.takeWhile isDigit, text.dropWhile isDigit)
  else
    match text with
    | [] => none
    | mark :: rest =>
      if (mark = 'x' ∨ mark = 'X') ∧ rest.takeWhile isHexDigit ≠ [] then
        some (mark :: rest.takeWhile isHexDigit, rest.dropWhile isHexDigit)
      else none

/-- A semicolon at the front is dropped. -/
def dropSemicolon : List Char → List Char
  | ';' :: rest => rest
  | text => text

/-- The number of a reference, read behind `&#`, and what follows the reference. -/
def numericReference? (text : List Char) : Option (List Char × List Char) :=
  match splitNumber? text with
  | none => none
  | some (number, rest) =>
    match rest with
    | [] => none
    | c :: _ => if isHexDigit c then none else some (number, dropSemicolon rest)

/-- A character that goes on with the name of a reference in text. -/
def isReferenceNameChar (c : Char) : Bool :=
  isLetter c || isDigit c || c == '-' || c == '.'

/-- A character that can be in a name or end it. -/
def isLooseEnd (c : Char) : Bool :=
  c == '-' || c == '.'

/-- The name of a reference, read behind `&`, and what follows the reference. -/
def nameOfReference? : List Char → Option (List Char × List Char)
  | [] => none
  | c :: rest =>
    if isLetter c then
      match rest.dropWhile isReferenceNameChar with
      | [] =>
        (Text.splitBeforeLast? isLooseEnd rest).map fun cut => (c :: cut.1, cut.2)
      | after => some (c :: rest.takeWhile isReferenceNameChar, dropSemicolon after)
    else none

/-! ## What a reference takes -/

theorem length_dropSemicolon_le (text : List Char) :
    (dropSemicolon text).length ≤ text.length := by
  unfold dropSemicolon
  split <;> simp

theorem numericReference?_shorter {text number rest : List Char}
    (h : numericReference? text = some (number, rest)) : rest.length ≤ text.length := by
  have hsplit {tail : List Char} (hs : splitNumber? text = some (number, tail)) :
      tail.length ≤ text.length := by
    unfold splitNumber? at hs
    split at hs
    · simp only [Option.some.injEq, Prod.mk.injEq] at hs
      exact hs.2 ▸ length_dropWhile_le isDigit text
    · split at hs
      · simp at hs
      · next mark more _ =>
        split at hs
        · simp only [Option.some.injEq, Prod.mk.injEq] at hs
          have := length_dropWhile_le isHexDigit more
          simp only [← hs.2, List.length_cons]
          omega
        · simp at hs
  unfold numericReference? at h
  split at h
  · simp at h
  · next number' tail hs =>
    split at h
    · simp at h
    · next c more _ =>
      split at h
      · simp at h
      · simp only [Option.some.injEq, Prod.mk.injEq] at h
        obtain ⟨rfl, rfl⟩ := h
        exact Nat.le_trans (length_dropSemicolon_le _) (hsplit hs)

theorem nameOfReference?_shorter {text name rest : List Char}
    (h : nameOfReference? text = some (name, rest)) : rest.length ≤ text.length := by
  unfold nameOfReference? at h
  split at h
  · simp at h
  · next c more =>
    split at h
    · split at h
      · obtain ⟨⟨b, a⟩, hcut, hpair⟩ := Option.map_eq_some_iff.1 h
        have hall := congrArg List.length (Text.splitBeforeLast?_append hcut)
        simp only [Prod.mk.injEq] at hpair
        simp only [List.length_append] at hall
        simp only [List.length_cons, ← hpair.2]
        omega
      · simp only [Option.some.injEq, Prod.mk.injEq] at h
        have h₁ := length_dropSemicolon_le (more.dropWhile isReferenceNameChar)
        have h₂ := length_dropWhile_le isReferenceNameChar more
        simp only [List.length_cons, ← h.2]
        omega
    · simp at h

end PageCompiler.Markup
