import PageCompiler.Markup.Event

/-!
# Comments, declarations and sections

The constructs that begin with `<!` or `<?`.

* `<!--` begins a comment, which the first `--`, blanks and `>` end.
* `<![` begins a marked section. Its keyword decides how it ends; an unknown keyword, or none, makes
  the text unreadable.
* `<!doctype`, in any case, begins a declaration, and `<?` an instruction, up to the next `>`.
* Any other `<!` begins a comment up to the next `>`.

A reader yields `none` when the text ends first.
-/

namespace PageCompiler.Markup

/-- An event, with what follows its construct. -/
abbrev Reading := Option (Event × List Char)

/-- The construct that runs from behind its first `skip` characters to the delimiter. -/
def readTo (delimiter : Delimiter) (make : String → Event) (text : List Char) (skip : Nat) :
    Reading :=
  (splitAt? delimiter (text.drop skip)).map fun found => (make (String.ofList found.1), found.2)

theorem readTo_shorter {delimiter : Delimiter} (hd : delimiter.Consumes) {make : String → Event}
    {text rest : List Char} {skip : Nat} {event : Event}
    (h : readTo delimiter make text skip = some (event, rest)) : rest.length < text.length := by
  obtain ⟨⟨before, after⟩, hfound, hpair⟩ := Option.map_eq_some_iff.1 h
  have := splitAt?_shorter hd hfound
  simp only [Prod.mk.injEq] at hpair
  obtain ⟨-, rfl⟩ := hpair
  simp only [List.length_drop] at this
  omega

/-- A character that goes on with the keyword of a section. -/
def isKeywordChar (c : Char) : Bool :=
  isLetter c || isDigit c || c == '-' || c == '_' || c == '.'

/-- How many characters a message shows of a text it complains about. -/
def excerptLength : Nat := 20

/-- How a section with this keyword ends. -/
def sectionDelimiter? (keyword : String) : Option Delimiter :=
  if ["temp", "cdata", "ignore", "include", "rcdata"].contains keyword then some sectionEnd
  else if ["if", "else", "endif"].contains keyword then some conditionalEnd
  else none

/-- Reads a section off a text that begins with `<![`. -/
def readSection (text : List Char) : Except Error Reading :=
  match text.drop 3 with
  | [] => .ok none
  | c :: rest =>
    if isLetter c then
      let keyword := c :: rest.takeWhile isKeywordChar
      let behind := rest.dropWhile isKeywordChar
      if behind.dropWhile Text.isBlank = [] then .ok none
      else
        match sectionDelimiter? (Text.lower (String.ofList keyword)) with
        | some delimiter => .ok (readTo delimiter .markedSection text 3)
        | none =>
          .error (.unknownSection (String.ofList (keyword ++ behind.takeWhile Text.isBlank)))
    else .error (.sectionWithoutKeyword (String.ofList (text.take excerptLength)))

/-- How a document type declaration begins. -/
def doctypeOpening : String := "<!doctype"

/-- Reads the construct off a text that begins with `<!` or `<?`. -/
def readDeclaration (text : List Char) : Except Error Reading :=
  match text with
  | '<' :: '!' :: '-' :: '-' :: _ => .ok (readTo commentEnd .comment text 4)
  | '<' :: '!' :: '[' :: _ => readSection text
  | '<' :: '?' :: _ => .ok (readTo angle .instruction text 2)
  | _ =>
    if Text.lower (String.ofList (text.take doctypeOpening.length)) = doctypeOpening then
      .ok (readTo angle .declaration text 2)
    else .ok (readTo angle .comment text 2)

theorem readSection_shorter {text rest : List Char} {event : Event}
    (h : readSection text = .ok (some (event, rest))) : rest.length < text.length := by
  unfold readSection at h
  split at h
  · simp at h
  · split at h
    · simp only at h
      split at h
      · simp at h
      · split at h
        · next delimiter hdelimiter =>
          have hd : delimiter.Consumes := by
            unfold sectionDelimiter? at hdelimiter
            split at hdelimiter
            · simp only [Option.some.injEq] at hdelimiter
              exact hdelimiter ▸ sectionEnd_consumes
            · split at hdelimiter
              · simp only [Option.some.injEq] at hdelimiter
                exact hdelimiter ▸ conditionalEnd_consumes
              · simp at hdelimiter
          exact readTo_shorter hd (Except.ok.inj h)
        · simp at h
    · simp at h

theorem readDeclaration_shorter {text rest : List Char} {event : Event}
    (h : readDeclaration text = .ok (some (event, rest))) : rest.length < text.length := by
  unfold readDeclaration at h
  split at h
  · exact readTo_shorter commentEnd_consumes (Except.ok.inj h)
  · exact readSection_shorter h
  · exact readTo_shorter angle_consumes (Except.ok.inj h)
  · split at h <;> exact readTo_shorter angle_consumes (Except.ok.inj h)

end PageCompiler.Markup
