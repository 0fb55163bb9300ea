import PageCompiler.Markup.Event

/-!
# End tags

`</`, a name, `>`. A well-formed end tag (`plainEndTag?`) may have blanks around the name. Anything
else up to the next `>` is an end tag too when a letter follows `</` at once, nothing at all when it
is `</>`, and a comment otherwise.

Inside raw text only the well-formed end tag of the open element counts; the rest is text. Where to
look for it is decided by `rawTextEnd`, which ignores case more freely than the names of tags do.
-/

namespace PageCompiler.Markup

/-- A character that goes on with the name in a well-formed end tag. -/
def isEndTagNameChar (c : Char) : Bool :=
  isLetter c || isDigit c || c == '-' || c == '.' || c == ':' || c == '_'

/-- The name of a well-formed end tag, and what follows the tag. -/
def plainEndTag? (text : List Char) : Option (List Char × List Char) :=
  match (text.drop 2).dropWhile Text.isBlank with
  | [] => none
  | c :: rest =>
    if isLetter c then
      (blanksAngle (rest.dropWhile isEndTagNameChar)).map fun after =>
        (c :: rest.takeWhile isEndTagNameChar, after)
    else none

/-- Reads an end tag off a text that begins with `</`, inside the raw text `raw` if any: its events,
the raw text that is then open, and what follows. `none` when no `>` ends it. -/
def readEndTag (raw : RawText) (text : List Char) : Option (List Event × RawText × List Char) :=
  (splitAt? angle (text.drop 1)).map fun found =>
    let asText := Event.text (String.ofList (text.take 1 ++ found.1 ++ ['>']))
    match plainEndTag? text with
    | some (name, after) =>
      let name := Text.lower (String.ofList name)
      if raw.isSome && raw != some name then ([asText], raw, found.2)
      else ([.endTag name], none, after)
    | none =>
      if raw.isSome then ([asText], raw, found.2)
      else
        match text.drop 2 with
        | [] => ([], raw, found.2)
        | c :: rest =>
          if isLetter c then
            let name := c :: rest.takeWhile isTagNameChar
            ([.endTag (Text.lower (String.ofList name))], raw, found.2)
          else if c = '>' then ([], raw, found.2)
          else ([.comment (String.ofList (found.1.drop 1))], raw, found.2)

theorem plainEndTag?_shorter {text name after : List Char}
    (h : plainEndTag? text = some (name, after)) : after.length < text.length := by
  have h₁ := length_dropWhile_le Text.isBlank (text.drop 2)
  unfold plainEndTag? at h
  split at h
  · simp at h
  · next c rest heq =>
    rw [heq] at h₁
    split at h
    · obtain ⟨tail, htail, hpair⟩ := Option.map_eq_some_iff.1 h
      have h₂ := blanksAngle_consumes _ _ htail
      have h₃ := length_dropWhile_le isEndTagNameChar rest
      simp only [Prod.mk.injEq] at hpair
      obtain ⟨-, rfl⟩ := hpair
      simp only [List.length_cons, List.length_drop] at h₁
      omega
    · simp at h

theorem readEndTag_shorter {raw raw' : RawText} {text rest : List Char} {events : List Event}
    (h : readEndTag raw text = some (events, raw', rest)) : rest.length < text.length := by
  obtain ⟨⟨before, after⟩, hfound, hpair⟩ := Option.map_eq_some_iff.1 h
  have hafter := splitAt?_shorter angle_consumes hfound
  simp only [List.length_drop] at hafter
  have finish {r : List Event × RawText × List Char}
      (hr : r = (events, raw', rest)) (hlt : r.2.2.length < text.length) :
      rest.length < text.length := by
    rw [hr] at hlt
    exact hlt
  have hlt : after.length < text.length := by omega
  dsimp only at hpair
  split at hpair
  · next name tail hplain =>
    have := plainEndTag?_shorter hplain
    split at hpair
    · exact finish hpair hlt
    · exact finish hpair this
  · split at hpair
    · exact finish hpair hlt
    · split at hpair
      · exact finish hpair hlt
      · split at hpair
        · exact finish hpair hlt
        · split at hpair <;> exact finish hpair hlt

/-! ## Where raw text ends -/

/-- The letters of `tag`, ignoring case, at the front of a text. -/
def dropFolded : List Char → Delimiter
  | [], text => some text
  | _ :: _, [] => none
  | letter :: tag, c :: rest => if Text.foldsTo letter c then dropFolded tag rest else none

/-- `</`, the tag and `>`, with blanks around the tag: the end of raw text. -/
def rawTextEnd (tag : String) : Delimiter
  | '<' :: '/' :: rest => (dropFolded tag.toList (rest.dropWhile Text.isBlank)).bind blanksAngle
  | _ => none

end PageCompiler.Markup
