import PageCompiler.Markup.StartTag

/-!
# Events

Reading markup yields events, one per construct of the text. A start tag carries the text it was
written as, since that is how it is written back; so do the other constructs, whose delimiters are
fixed. References are kept apart from text: they are written back with a semicolon.

A *raw-text* element, `script` or `style`, holds text in which nothing but its own end tag counts.
The readers of this folder are told which raw-text element is open, if any.
-/

namespace PageCompiler.Markup

/-- One construct of a text. -/
inductive Event
  | startTag (spelling name : String) (attributes : List (String × Option String))
      (selfClosing : Bool)
  | endTag (name : String)
  | text (data : String)
  | namedReference (name : String)
  | numericReference (number : String)
  | comment (data : String)
  | declaration (data : String)
  | markedSection (data : String)
  | instruction (data : String)
  deriving Repr, DecidableEq

/-- The open raw-text element. -/
abbrev RawText := Option String

/-- The elements whose content is raw text. -/
def rawTextTags : List String := ["script", "style"]

/-! ## Finding the end of a construct -/

/-- A delimiter: recognised at the front of a text, it yields what follows it. -/
abbrev Delimiter := List Char → Option (List Char)

/-- The text before the first place where the delimiter is recognised, and the text behind it. -/
def splitAt? (delimiter : Delimiter) : List Char → Option (List Char × List Char)
  | [] => none
  | c :: rest =>
    match delimiter (c :: rest) with
    | some after => some ([], after)
    | none => (splitAt? delimiter rest).map fun found => (c :: found.1, found.2)

/-- The delimiter takes at least one character. -/
def Delimiter.Consumes (delimiter : Delimiter) : Prop :=
  ∀ text after, delimiter text = some after → after.length < text.length

theorem splitAt?_shorter {delimiter : Delimiter} (hd : delimiter.Consumes) {text before after}
    (h : splitAt? delimiter text = some (before, after)) :
    after.length + before.length < text.length := by
  induction text generalizing before with
  | nil => simp [splitAt?] at h
  | cons c rest ih =>
    simp only [splitAt?] at h
    split at h
    · next found hfound =>
      simp only [Option.some.injEq, Prod.mk.injEq] at h
      obtain ⟨rfl, rfl⟩ := h
      simpa using hd _ _ hfound
    · obtain ⟨⟨b, a⟩, hba, heq⟩ := Option.map_eq_some_iff.1 h
      simp only [Prod.mk.injEq] at heq
      obtain ⟨rfl, rfl⟩ := heq
      have := ih hba
      simp only [List.length_cons]
      omega

/-- `>`. -/
def angle : Delimiter
  | '>' :: rest => some rest
  | _ => none

/-- Blanks and `>`. -/
def blanksAngle : Delimiter := fun text => angle (text.dropWhile Text.isBlank)

/-- `--`, blanks and `>`: the end of a comment. -/
def commentEnd : Delimiter
  | '-' :: '-' :: rest => blanksAngle rest
  | _ => none

/-- `]`, blanks and `>`: the end of a conditional section. -/
def conditionalEnd : Delimiter
  | ']' :: rest => blanksAngle rest
  | _ => none

/-- `]`, `]` and `>`, with blanks between them: the end of a data section. -/
def sectionEnd : Delimiter
  | ']' :: rest => conditionalEnd (rest.dropWhile Text.isBlank)
  | _ => none

theorem angle_consumes : angle.Consumes := by
  intro text after h
  unfold angle at h
  split at h <;> simp_all

theorem length_dropWhile_le (p : Char → Bool) (cs : List Char) :
    (cs.dropWhile p).length ≤ cs.length :=
  (List.dropWhile_sublist p).length_le

theorem blanksAngle_consumes : blanksAngle.Consumes := by
  intro text after h
  have := angle_consumes _ _ h
  have := length_dropWhile_le Text.isBlank text
  omega

theorem commentEnd_consumes : commentEnd.Consumes := by
  intro text after h
  unfold commentEnd at h
  split at h
  · have := blanksAngle_consumes _ _ h
    simp only [List.length_cons]
    omega
  · simp at h

theorem conditionalEnd_consumes : conditionalEnd.Consumes := by
  intro text after h
  unfold conditionalEnd at h
  split at h
  · have := blanksAngle_consumes _ _ h
    simp only [List.length_cons]
    omega
  · simp at h

theorem sectionEnd_consumes : sectionEnd.Consumes := by
  intro text after h
  unfold sectionEnd at h
  split at h
  · next rest =>
    have := conditionalEnd_consumes _ _ h
    have := length_dropWhile_le Text.isBlank rest
    simp only [List.length_cons]
    omega
  · simp at h

end PageCompiler.Markup
