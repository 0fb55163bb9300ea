import PageCompiler.Keyed
import PageCompiler.Markup.Reference
import PageCompiler.Text.Blank
import PageCompiler.Text.Case

/-!
# Start tags

A start tag is `<`, a name that begins with an ASCII letter, and attributes up to `>` or `/>`.
Between the parts stand blanks and slashes. Every reader here takes what it recognises off the front
of the text and keeps the spelling, so that spelling and rest together are the text that was read
(`attribute?_spelling`, `readAttributes_spelling`).

An attribute begins behind a blank, a slash or a quote. Its value is quoted or runs to the next
blank or `>`. A quote that is never closed is no value: the attribute then ends before the last
blank behind its `=` signs, or takes the last of several `=` signs into the value, or has no value
at all.
-/

namespace PageCompiler.Markup

open PageCompiler.Text (isBlank)

/-- Attributes in order, those written without `=` with no value. -/
abbrev Attributes := Keyed (Option String)

/-- An ASCII letter. -/
def isLetter (c : Char) : Bool :=
  ('a' ≤ c && c ≤ 'z') || ('A' ≤ c && c ≤ 'Z')

/-- A character that goes on with the name of a tag. -/
def isTagNameChar (c : Char) : Bool :=
  !"\t\n\r\x0c />\x00".toList.contains c

/-- A character that goes on with the name of an attribute. -/
def isAttributeNameChar (c : Char) : Bool :=
  !isBlank c && c != '/' && c != '=' && c != '>'

/-- A character that goes on with a value without quotes. -/
def isBareValueChar (c : Char) : Bool :=
  !isBlank c && c != '>'

/-- A character behind which an attribute can begin. -/
def opensAttribute (c : Char) : Bool :=
  isBlank c || c == '/' || c == '"' || c == '\''

/-- A character with which an attribute can begin. -/
def isAttributeStart (c : Char) : Bool :=
  !isBlank c && c != '/' && c != '>'

/-- A character that quotes a value. -/
def isQuote (c : Char) : Bool :=
  c == '"' || c == '\''

/-! ## Separators -/

/-- The blanks and slashes at the front, and the rest. A slash before `>` is no separator. -/
def splitSeparators : List Char → List Char × List Char
  | [] => ([], [])
  | c :: rest =>
    if isBlank c || (c == '/' && rest.head? != some '>') then
      (c :: (splitSeparators rest).1, (splitSeparators rest).2)
    else ([], c :: rest)

theorem splitSeparators_append (cs : List Char) :
    (splitSeparators cs).1 ++ (splitSeparators cs).2 = cs := by
  induction cs with
  | nil => rfl
  | cons c rest ih =>
    unfold splitSeparators
    split
    · simp [ih]
    · rfl

/-! ## Attributes -/

/-- A value with the spelling from behind the attribute's name to the end of the value. -/
structure WrittenValue where
  value : List Char
  spelling : List Char
  deriving Repr, DecidableEq

/-- Reads `=` and a value behind an attribute's name; `none` when there is no value. -/
def attributeValue? (text : List Char) : Option (WrittenValue × List Char) :=
  let before := text.takeWhile isBlank
  let afterBefore := text.dropWhile isBlank
  let signs := afterBefore.takeWhile (· == '=')
  let afterSigns := afterBefore.dropWhile (· == '=')
  let gap := afterSigns.takeWhile isBlank
  let rest := afterSigns.dropWhile isBlank
  let bare (cs : List Char) := (cs.takeWhile isBareValueChar, cs.dropWhile isBareValueChar)
  if signs = [] then none
  else
    match rest with
    | [] => some (⟨[], before ++ signs ++ gap⟩, [])
    | quote :: inner =>
      if isQuote quote then
        match inner.dropWhile (· != quote) with
        | closing :: after =>
          let value := inner.takeWhile (· != quote)
          some (⟨value, before ++ signs ++ gap ++ quote :: value ++ [closing]⟩, after)
        | [] =>
          match gap.getLast? with
          | some last => some (⟨[], before ++ signs ++ gap.dropLast⟩, last :: rest)
          | none =>
            if 2 ≤ signs.length then
              some (⟨'=' :: (bare rest).1, before ++ signs ++ (bare rest).1⟩, (bare rest).2)
            else none
      else some (⟨(bare rest).1, before ++ signs ++ gap ++ (bare rest).1⟩, (bare rest).2)

/-- An attribute as written: its name, its value before references are replaced, and its spelling
with the separators behind it. -/
structure WrittenAttribute where
  name : List Char
  value : Option (List Char)
  spelling : List Char
  deriving Repr, DecidableEq

/-- Reads one attribute that follows the character `previous`. -/
def attribute? (previous : Char) : List Char → Option (WrittenAttribute × List Char)
  | [] => none
  | c :: text =>
    if opensAttribute previous && isAttributeStart c then
      let name := c :: text.takeWhile isAttributeNameChar
      let afterName := text.dropWhile isAttributeNameChar
      match attributeValue? afterName with
      | some (written, after) =>
        let split := splitSeparators after
        some (⟨name, some written.value, name ++ written.spelling ++ split.1⟩, split.2)
      | none =>
        let split := splitSeparators afterName
        some (⟨name, none, name ++ split.1⟩, split.2)
    else none

theorem attributeValue?_spelling {text rest : List Char} {written : WrittenValue}
    (h : attributeValue? text = some (written, rest)) : written.spelling ++ rest = text := by
  have h₁ := List.takeWhile_append_dropWhile (p := isBlank) (l := text)
  have h₂ := List.takeWhile_append_dropWhile (p := (· == '=')) (l := text.dropWhile isBlank)
  have h₃ := List.takeWhile_append_dropWhile (p := isBlank)
    (l := (text.dropWhile isBlank).dropWhile (· == '='))
  simp only [attributeValue?] at h
  generalize hb : text.takeWhile isBlank = before at *
  generalize text.dropWhile isBlank = afterBefore at *
  generalize hs : afterBefore.takeWhile (· == '=') = signs at *
  generalize afterBefore.dropWhile (· == '=') = afterSigns at *
  generalize hg : afterSigns.takeWhile isBlank = gap at *
  generalize afterSigns.dropWhile isBlank = tail at *
  subst h₁ h₂ h₃
  have bare := List.takeWhile_append_dropWhile (p := isBareValueChar) (l := tail)
  split at h
  · simp at h
  · split at h
    · simp only [Option.some.injEq, Prod.mk.injEq] at h
      obtain ⟨rfl, rfl⟩ := h
      simp
    · next quote inner =>
      split at h
      · split at h
        · next closing after hclose =>
          simp only [Option.some.injEq, Prod.mk.injEq] at h
          obtain ⟨rfl, rfl⟩ := h
          have hq := List.takeWhile_append_dropWhile (p := (· != quote)) (l := inner)
          rw [hclose] at hq
          simp only [List.append_assoc, List.cons_append, List.nil_append]
          rw [hq]
        · split at h
          · next last hlast =>
            simp only [Option.some.injEq, Prod.mk.injEq] at h
            obtain ⟨rfl, rfl⟩ := h
            have hgap : gap = gap.dropLast ++ [last] := by
              have hne : gap ≠ [] := by
                rintro rfl
                simp at hlast
              rw [List.getLast?_eq_some_getLast hne, Option.some.injEq] at hlast
              rw [← hlast, List.dropLast_concat_getLast]
            simp only [List.append_assoc]
            congr 2
            conv => rhs; rw [hgap]
            simp
          · next hlast =>
            have hgap : gap = [] := by simpa using hlast
            split at h
            · simp only [Option.some.injEq, Prod.mk.injEq] at h
              obtain ⟨rfl, rfl⟩ := h
              simp [hgap, bare]
            · simp at h
      · simp only [Option.some.injEq, Prod.mk.injEq] at h
        obtain ⟨rfl, rfl⟩ := h
        simp [bare]

/-- Spelling and rest of an attribute are the text read, and the spelling is not empty. -/
theorem attribute?_spelling {previous : Char} {text rest : List Char} {a : WrittenAttribute}
    (h : attribute? previous text = some (a, rest)) :
    a.spelling ++ rest = text ∧ a.spelling ≠ [] := by
  cases text with
  | nil => simp [attribute?] at h
  | cons c text =>
    simp only [attribute?] at h
    have hname := List.takeWhile_append_dropWhile (p := isAttributeNameChar) (l := text)
    split at h
    · split at h
      · next written after hvalue =>
        simp only [Option.some.injEq, Prod.mk.injEq] at h
        obtain ⟨rfl, rfl⟩ := h
        have := attributeValue?_spelling hvalue
        have hsep := splitSeparators_append after
        refine ⟨?_, by simp⟩
        simp only [List.append_assoc, List.cons_append]
        rw [hsep, this, hname]
      · simp only [Option.some.injEq, Prod.mk.injEq] at h
        obtain ⟨rfl, rfl⟩ := h
        have hsep := splitSeparators_append (text.dropWhile isAttributeNameChar)
        refine ⟨?_, by simp⟩
        simp only [List.append_assoc, List.cons_append]
        rw [hsep, hname]
    · simp at h

theorem attribute?_shorter {previous : Char} {text rest : List Char} {a : WrittenAttribute}
    (h : attribute? previous text = some (a, rest)) : rest.length < text.length := by
  obtain ⟨rfl, hne⟩ := attribute?_spelling h
  have := List.length_pos_iff.2 hne
  simp only [List.length_append]
  omega

/-- Reads attributes, the first of which follows `previous`, as long as there are any. -/
def readAttributes (previous : Char) (text : List Char) : List WrittenAttribute × List Char :=
  match h : attribute? previous text with
  | none => ([], text)
  | some (a, rest) =>
    have := attribute?_shorter h
    let more := readAttributes (a.spelling.getLastD previous) rest
    (a :: more.1, more.2)
termination_by text.length

theorem readAttributes_spelling (previous : Char) (text : List Char) :
    (readAttributes previous text).1.flatMap WrittenAttribute.spelling ++
      (readAttributes previous text).2 = text := by
  fun_induction readAttributes previous text with
  | case1 => simp
  | case2 previous text a rest h _ more ih =>
    simp only [List.flatMap_cons, List.append_assoc]
    rw [ih, (attribute?_spelling h).1]

/-- The attributes that written ones stand for: names in small letters, references replaced. -/
def attributesOf : List WrittenAttribute → Except Error (List (String × Option String))
  | [] => .ok []
  | a :: rest => do
    let name := Text.lower (String.ofList a.name)
    let value ← match a.value with
      | none => pure none
      | some chars => (some ∘ String.ofList) <$> expand chars
    return (name, value) :: (← attributesOf rest)

/-! ## The whole tag -/

/-- What a text that begins with `<` and a letter holds. -/
inductive StartTag
  /-- A tag with its spelling, its name in small letters and its attributes in writing order. -/
  | tag (spelling : List Char) (name : String) (attributes : List (String × Option String))
      (selfClosing : Bool)
  /-- The text ends inside the tag, or an `=` stands where an attribute would begin. -/
  | unfinished
  /-- A character that cannot stand in a tag follows what was read so far. -/
  | broken (spelling : List Char)
  deriving Repr, DecidableEq

/-- Reads a start tag off a text that begins with `<` and a letter. -/
def readStartTag (text : List Char) : Except Error (StartTag × List Char) :=
  let afterBracket := text.drop 1
  let name := afterBracket.takeWhile isTagNameChar
  let split := splitSeparators (afterBracket.dropWhile isTagNameChar)
  let front := text.take 1 ++ name ++ split.1
  let attributes := readAttributes (front.getLastD '<') split.2
  let spelling := front ++ attributes.1.flatMap WrittenAttribute.spelling
  let finish (closing : List Char) (selfClosing : Bool) (rest : List Char) := do
    let values ← attributesOf attributes.1
    return (.tag (spelling ++ closing) (Text.lower (String.ofList name)) values selfClosing, rest)
  match attributes.2 with
  | [] => .ok (.unfinished, [])
  | '>' :: rest => finish ['>'] false rest
  | '/' :: '>' :: rest => finish ['/', '>'] true rest
  | c :: rest =>
    if c = '=' then .ok (.unfinished, c :: rest) else .ok (.broken spelling, c :: rest)

/-- The characters that a reading of a start tag covers. -/
def StartTag.spelling : StartTag → List Char
  | .tag spelling .. => spelling
  | .broken spelling => spelling
  | .unfinished => []

/-- Spelling and rest of a start tag are the text read, and a tag is not empty. -/
theorem readStartTag_spelling {c : Char} {text rest : List Char} {tag : StartTag}
    (h : readStartTag (c :: text) = .ok (tag, rest)) (hf : tag ≠ .unfinished) :
    tag.spelling ++ rest = c :: text ∧ tag.spelling ≠ [] := by
  simp only [readStartTag, List.drop_succ_cons, List.drop_zero, List.take_succ_cons,
    List.take_zero] at h
  have h₁ := List.takeWhile_append_dropWhile (p := isTagNameChar) (l := text)
  have h₂ := splitSeparators_append (text.dropWhile isTagNameChar)
  generalize splitSeparators (text.dropWhile isTagNameChar) = split at *
  generalize text.takeWhile isTagNameChar = name at *
  generalize hprev : (([c] ++ name ++ split.1).getLastD '<') = previous at *
  have h₃ := readAttributes_spelling previous split.2
  generalize readAttributes previous split.2 = attributes at *
  have whole : ([c] ++ name ++ split.1 ++ attributes.1.flatMap WrittenAttribute.spelling) ++
      attributes.2 = c :: text := by
    simp only [List.append_assoc, List.cons_append, List.nil_append]
    rw [h₃, h₂, h₁]
  have finish (closing tail : List Char) (heq : attributes.2 = closing ++ tail)
      (selfClosing : Bool) (lowered : String)
      (h : (do
        let values ← attributesOf attributes.1
        return (StartTag.tag (([c] ++ name ++ split.1 ++
          attributes.1.flatMap WrittenAttribute.spelling) ++ closing) lowered values selfClosing,
          tail) : Except Error _) = .ok (tag, rest)) :
      tag.spelling ++ rest = c :: text ∧ tag.spelling ≠ [] := by
    cases hv : attributesOf attributes.1 with
    | error e => simp [hv, bind, Except.bind] at h
    | ok values =>
      simp only [hv, bind, Except.bind, pure, Except.pure, Except.ok.injEq, Prod.mk.injEq] at h
      obtain ⟨rfl, rfl⟩ := h
      refine ⟨?_, by simp [StartTag.spelling]⟩
      rw [← whole, heq]
      simp [StartTag.spelling]
  split at h
  · simp only [Except.ok.injEq, Prod.mk.injEq] at h
    exact absurd h.1.symm hf
  · next tail heq => exact finish ['>'] tail heq false _ h
  · next tail heq => exact finish ['/', '>'] tail heq true _ h
  · next d tail _ _ heq =>
    split at h
    · simp only [Except.ok.injEq, Prod.mk.injEq] at h
      exact absurd h.1.symm hf
    · simp only [Except.ok.injEq, Prod.mk.injEq] at h
      obtain ⟨rfl, rfl⟩ := h
      refine ⟨?_, by simp [StartTag.spelling]⟩
      rw [← whole, heq]
      simp [StartTag.spelling]

end PageCompiler.Markup
