import PageCompiler.Markup.Tree
import PageCompiler.Proofs.Markup.Names

/-!
# Plain start tags

A plain start tag is `<`, a plain name, attributes each behind one space and written `name`,
`name="value"` or `name='value'`, and `>` or `/>`. It is read back as it was written
(`readStartTag_chars`) : the reader of attributes takes one attribute after the other
(`readAttributes_chars`), since behind each stands the space of the next one or the end of the tag.
What can still go wrong is a value with a reference that has no number.
-/

namespace PageCompiler.Markup

/-- An attribute as it is written : a name, and a value with its quotes if it has one. -/
structure SpelledAttribute where
  name : List Char
  value : Option (Char × List Char)

/-- A start tag as it is written. -/
structure SpelledTag where
  name : List Char
  attributes : List SpelledAttribute
  selfClosing : Bool

namespace SpelledAttribute

/-- The sign, the quotes and the value between them. -/
def valueChars : Option (Char × List Char) → List Char
  | none => []
  | some (quote, value) => '=' :: quote :: (value ++ [quote])

/-- The characters of the attribute. -/
def chars (a : SpelledAttribute) : List Char :=
  a.name ++ valueChars a.value

/-- The name is plain and the quotes do not occur between them. -/
structure IsPlain (a : SpelledAttribute) : Prop where
  name : IsName a.name
  value : ∀ quote value, a.value = some (quote, value) → isQuote quote ∧ quote ∉ value

instance : DecidablePred IsPlain := fun a =>
  decidable_of_iff (IsName a.name ∧ ∀ quoted ∈ a.value, isQuote quoted.1 ∧ quoted.1 ∉ quoted.2)
    ⟨fun h => ⟨h.1, fun quote value hv => h.2 (quote, value) hv⟩,
      fun h => ⟨h.name, fun quoted hv => h.value quoted.1 quoted.2 hv⟩⟩

/-- The attribute as a reader yields it, with what separates it from the next one. -/
def written (a : SpelledAttribute) (separators : List Char) : WrittenAttribute :=
  ⟨a.name, a.value.map Prod.snd, a.chars ++ separators⟩

end SpelledAttribute

namespace SpelledTag

/-- How the tag ends. -/
def closing (tag : SpelledTag) : List Char :=
  if tag.selfClosing then ['/', '>'] else ['>']

/-- The attributes, each behind a space. -/
def attributeChars (attributes : List SpelledAttribute) : List Char :=
  attributes.flatMap fun a => ' ' :: a.chars

/-- The space in front of the first attribute, if there is one. -/
def gap : List SpelledAttribute → List Char
  | [] => []
  | _ :: _ => [' ']

/-- The attributes without the space in front of the first. -/
def body : List SpelledAttribute → List Char
  | [] => []
  | a :: more => a.chars ++ attributeChars more

theorem gap_append_body : ∀ attributes : List SpelledAttribute,
    gap attributes ++ body attributes = attributeChars attributes
  | [] => rfl
  | _ :: _ => rfl

/-- The characters of the tag. -/
def chars (tag : SpelledTag) : List Char :=
  '<' :: (tag.name ++ (attributeChars tag.attributes ++ tag.closing))

/-- The names are plain, and values do not hold their quotes. -/
structure IsPlain (tag : SpelledTag) : Prop where
  name : IsName tag.name
  attributes : ∀ a ∈ tag.attributes, a.IsPlain

instance : DecidablePred IsPlain := fun tag =>
  decidable_of_iff (IsName tag.name ∧ ∀ a ∈ tag.attributes, a.IsPlain)
    ⟨fun h => ⟨h.1, h.2⟩, fun h => ⟨h.name, h.attributes⟩⟩

/-- The tag in small letters. -/
def tagName (tag : SpelledTag) : String :=
  Text.lower (String.ofList tag.name)

/-- The tag opens raw text. -/
def opensRawText (tag : SpelledTag) : Bool :=
  !tag.selfClosing && rawTextTags.contains tag.tagName

/-- The attributes that the tag stands for. -/
def values (tag : SpelledTag) : Except Error (List (String × Option String)) :=
  attributesOf (tag.attributes.map fun a => a.written [])

/-- The event of the tag. -/
def event (tag : SpelledTag) : Except Error Event :=
  (fun values => .startTag (String.ofList tag.chars) tag.tagName values tag.selfClosing) <$>
    tag.values

end SpelledTag

/-! ## What stands behind an attribute -/

/-- The end of the tag, or a space and then the name of an attribute. -/
inductive Follows : List Char → List Char → List Char → Prop
  | angle (rest : List Char) : Follows ('>' :: rest) [] ('>' :: rest)
  | slash (rest : List Char) : Follows ('/' :: '>' :: rest) [] ('/' :: '>' :: rest)
  | space {c : Char} (hc : isLetter c) (rest : List Char) :
      Follows (' ' :: c :: rest) [' '] (c :: rest)

namespace Follows

variable {text separators rest : List Char}

theorem splitSeparators (h : Follows text separators rest) :
    splitSeparators text = (separators, rest) := by
  cases h with
  | angle rest => simp [Markup.splitSeparators, Text.isBlank, Text.blankSpans, Text.Spans.mem]
  | slash rest => simp [Markup.splitSeparators, Text.isBlank, Text.blankSpans, Text.Spans.mem]
  | space hc rest =>
    have hblank := (nameChar_reads (isNameChar_of_isLetter hc)).2.2.2
    have hslash := (letter_begins hc).2.2.1
    have hspace : Text.isBlank ' ' := by decide
    simp [Markup.splitSeparators, hblank, hslash, hspace]

/-- No `=` follows, so there is no value. -/
theorem attributeValue? (h : Follows text separators rest) : attributeValue? text = none := by
  cases h with
  | angle rest => simp [Markup.attributeValue?, Text.isBlank, Text.blankSpans, Text.Spans.mem]
  | slash rest => simp [Markup.attributeValue?, Text.isBlank, Text.blankSpans, Text.Spans.mem]
  | space hc rest =>
    have hblank := (nameChar_reads (isNameChar_of_isLetter hc)).2.2.2
    have hspace : Text.isBlank ' ' := by decide
    have hsign := (letter_begins hc).2.2.2.1
    simp [Markup.attributeValue?, hblank, hspace, hsign]

/-- What follows does not go on with a name. -/
theorem head_isAttributeNameChar (h : Follows text separators rest) :
    ∀ c ∈ text.head?, isAttributeNameChar c = false := by
  cases h <;> rintro c ⟨⟩ <;> decide

end Follows

/-! ## Reading attributes -/

theorem attributeValue?_quoted {quote : Char} {value : List Char} (hq : isQuote quote)
    (hv : quote ∉ value) (text : List Char) :
    attributeValue? (SpelledAttribute.valueChars (some (quote, value)) ++ text) =
      some (⟨value, SpelledAttribute.valueChars (some (quote, value))⟩, text) := by
  have hinside : ∀ c ∈ value, (c != quote) = true := by
    intro c hc
    simp only [bne_iff_ne, ne_eq]
    rintro rfl
    exact hv hc
  have hclose : ∀ c ∈ (quote :: text).head?, (c != quote) = false := by
    rintro c ⟨⟩
    simp
  have htake := takeWhile_append hinside hclose
  have hdrop := dropWhile_append hinside hclose
  have hsign : Text.isBlank '=' = false := by decide
  have hquote : Text.isBlank quote = false ∧ (quote == '=') = false := by
    simp only [isQuote, Bool.or_eq_true, beq_iff_eq] at hq
    rcases hq with rfl | rfl <;> decide
  have hspelled : SpelledAttribute.valueChars (some (quote, value)) ++ text =
      '=' :: quote :: (value ++ quote :: text) := by
    simp [SpelledAttribute.valueChars]
  rw [hspelled]
  simp [attributeValue?, hsign, hquote, hq, htake, hdrop, SpelledAttribute.valueChars]

/-- An attribute is read whole, with the separators behind it. -/
theorem attribute?_chars {a : SpelledAttribute} (ha : a.IsPlain) {previous : Char}
    (hp : opensAttribute previous) {text separators rest : List Char}
    (h : Follows text separators rest) :
    attribute? previous (a.chars ++ text) = some (a.written separators, rest) := by
  obtain ⟨c, more, hname, hc, hmore⟩ := ha.name
  have hread : ∀ d ∈ more, isAttributeNameChar d := fun d hd => (nameChar_reads (hmore d hd)).2.1
  have hstart := (letter_begins hc).1
  cases hvalue : a.value with
  | none =>
    have htext : a.chars ++ text = c :: (more ++ text) := by
      simp [SpelledAttribute.chars, hname, hvalue, SpelledAttribute.valueChars]
    have htake := takeWhile_append hread h.head_isAttributeNameChar
    have hdrop := dropWhile_append hread h.head_isAttributeNameChar
    rw [htext, attribute?, if_pos (by simp [hp, hstart])]
    simp only [htake, hdrop, h.attributeValue?, h.splitSeparators]
    simp [SpelledAttribute.written, SpelledAttribute.chars, hname, hvalue,
      SpelledAttribute.valueChars]
  | some quoted =>
    obtain ⟨quote, value⟩ := quoted
    obtain ⟨hquote, hinside⟩ := ha.value quote value hvalue
    have htext : a.chars ++ text =
        c :: (more ++ (SpelledAttribute.valueChars (some (quote, value)) ++ text)) := by
      simp [SpelledAttribute.chars, hname, hvalue]
    have hsign : ∀ d ∈ (SpelledAttribute.valueChars (some (quote, value)) ++ text).head?,
        isAttributeNameChar d = false := by
      rintro d ⟨⟩
      decide
    have htake := takeWhile_append hread hsign
    have hdrop := dropWhile_append hread hsign
    rw [htext, attribute?, if_pos (by simp [hp, hstart])]
    simp only [htake, hdrop, attributeValue?_quoted hquote hinside, h.splitSeparators]
    simp [SpelledAttribute.written, SpelledAttribute.chars, hname, hvalue]

theorem readAttributes_of_attribute? {previous : Char} {text rest : List Char}
    {a : WrittenAttribute} (h : attribute? previous text = some (a, rest)) :
    readAttributes previous text =
      (a :: (readAttributes (a.spelling.getLastD previous) rest).1,
        (readAttributes (a.spelling.getLastD previous) rest).2) := by
  rw [readAttributes]
  split
  · next hn => simp [h] at hn
  · next a' rest' hs =>
    obtain ⟨rfl, rfl⟩ : a = a' ∧ rest = rest' := by simpa [h] using hs
    rfl

theorem readAttributes_of_none {previous : Char} {text : List Char}
    (h : attribute? previous text = none) : readAttributes previous text = ([], text) := by
  rw [readAttributes]
  split
  · rfl
  · next hs => simp [h] at hs

/-- At the end of a tag no attribute begins. -/
theorem readAttributes_closing (tag : SpelledTag) (previous : Char) (rest : List Char) :
    readAttributes previous (tag.closing ++ rest) = ([], tag.closing ++ rest) := by
  refine readAttributes_of_none ?_
  unfold SpelledTag.closing
  split <;> simp [attribute?, isAttributeStart]

/-- Behind an attribute stand the next ones and the end of the tag. -/
theorem follows_attributeChars {attributes : List SpelledAttribute}
    (ha : ∀ a ∈ attributes, a.IsPlain) (tag : SpelledTag) (rest : List Char) :
    Follows (SpelledTag.attributeChars attributes ++ (tag.closing ++ rest))
      (SpelledTag.gap attributes) (SpelledTag.body attributes ++ (tag.closing ++ rest)) := by
  cases attributes with
  | nil =>
    unfold SpelledTag.closing
    split
    · exact .slash rest
    · exact .angle rest
  | cons a more =>
    obtain ⟨c, tail, hname, hc, -⟩ := (ha a List.mem_cons_self).name
    have hbody : SpelledTag.body (a :: more) ++ (tag.closing ++ rest) =
        c :: (tail ++ (SpelledAttribute.valueChars a.value ++
          (SpelledTag.attributeChars more ++ (tag.closing ++ rest)))) := by
      simp [SpelledTag.body, SpelledAttribute.chars, hname]
    rw [← SpelledTag.gap_append_body, List.append_assoc, hbody]
    exact .space hc _

/-- The attributes as a reader yields them, each with the space behind it. -/
def writtenAll : List SpelledAttribute → List WrittenAttribute
  | [] => []
  | a :: more => a.written (SpelledTag.gap more) :: writtenAll more

theorem readAttributes_chars (tag : SpelledTag) (rest : List Char) :
    ∀ {attributes : List SpelledAttribute}, (∀ a ∈ attributes, a.IsPlain) →
      ∀ {previous : Char}, (attributes ≠ [] → opensAttribute previous) →
      readAttributes previous (SpelledTag.body attributes ++ (tag.closing ++ rest)) =
        (writtenAll attributes, tag.closing ++ rest)
  | [], _, previous, _ => readAttributes_closing tag previous rest
  | a :: more, ha, previous, hp => by
    have hmore : ∀ b ∈ more, b.IsPlain := fun b hb => ha b (List.mem_cons_of_mem _ hb)
    have hnext : more ≠ [] →
        opensAttribute ((a.written (SpelledTag.gap more)).spelling.getLastD previous) := by
      intro hne
      cases more with
      | nil => exact absurd rfl hne
      | cons b more =>
        simp only [SpelledAttribute.written, SpelledTag.gap, List.getLastD_concat]
        decide
    have hone := attribute?_chars (ha a List.mem_cons_self) (hp (by simp))
      (follows_attributeChars hmore tag rest)
    rw [SpelledTag.body, List.append_assoc, readAttributes_of_attribute? hone,
      readAttributes_chars tag rest hmore hnext]
    rfl

/-- The separators do not matter to what attributes stand for. -/
theorem attributesOf_writtenAll : ∀ attributes : List SpelledAttribute,
    attributesOf (writtenAll attributes) = attributesOf (attributes.map fun a => a.written [])
  | [] => rfl
  | a :: more => by
    rw [writtenAll, List.map_cons, attributesOf, attributesOf, attributesOf_writtenAll more]
    rfl

theorem gap_append_spelling : ∀ attributes : List SpelledAttribute,
    SpelledTag.gap attributes ++ (writtenAll attributes).flatMap WrittenAttribute.spelling =
      SpelledTag.attributeChars attributes
  | [] => rfl
  | a :: more => by
    rw [writtenAll, List.flatMap_cons, SpelledAttribute.written, List.append_assoc,
      gap_append_spelling more]
    rfl

/-! ## Reading tags -/

theorem head?_attributeChars_closing (tag : SpelledTag) (attributes : List SpelledAttribute)
    (rest : List Char) :
    ∀ c ∈ (SpelledTag.attributeChars attributes ++ (tag.closing ++ rest)).head?,
      isTagNameChar c = false := by
  cases attributes with
  | nil =>
    unfold SpelledTag.closing
    split <;> rintro c ⟨⟩ <;> decide
  | cons a more =>
    rintro c ⟨⟩
    decide

/-- A plain start tag is read as it was written, unless one of its values cannot be read. -/
theorem readStartTag_chars {tag : SpelledTag} (h : tag.IsPlain) (rest : List Char) :
    readStartTag (tag.chars ++ rest) =
      (fun values => (.tag tag.chars tag.tagName values tag.selfClosing, rest)) <$>
        tag.values := by
  have hread : ∀ c ∈ tag.name, isTagNameChar c :=
    fun c hc => (nameChar_reads (h.name.nameChar c hc)).1
  have hend := head?_attributeChars_closing tag tag.attributes rest
  have htake := takeWhile_append hread hend
  have hdrop := dropWhile_append hread hend
  have hsep := (follows_attributeChars h.attributes tag rest).splitSeparators
  have hprevious : tag.attributes ≠ [] → opensAttribute
      ((['<'] ++ tag.name ++ SpelledTag.gap tag.attributes).getLastD '<') := by
    intro hne
    obtain ⟨a, more, hcons⟩ := List.exists_cons_of_ne_nil hne
    rw [hcons, SpelledTag.gap, List.getLastD_concat]
    decide
  have hattributes := readAttributes_chars tag rest h.attributes hprevious
  have htext : tag.chars ++ rest =
      '<' :: (tag.name ++ (SpelledTag.attributeChars tag.attributes ++ (tag.closing ++ rest))) := by
    simp [SpelledTag.chars]
  rw [htext]
  simp only [readStartTag, List.drop_succ_cons, List.drop_zero, List.take_succ_cons,
    List.take_zero, htake, hdrop, hsep, hattributes, attributesOf_writtenAll]
  have hspelling : ['<'] ++ tag.name ++ SpelledTag.gap tag.attributes ++
      (writtenAll tag.attributes).flatMap WrittenAttribute.spelling ++ tag.closing = tag.chars := by
    rw [List.append_assoc (['<'] ++ tag.name), gap_append_spelling]
    simp [SpelledTag.chars]
  have hfinish : ∀ (closing : List Char), tag.closing = closing → (do
      let values ← tag.values
      return (StartTag.tag (['<'] ++ tag.name ++ SpelledTag.gap tag.attributes ++
        (writtenAll tag.attributes).flatMap WrittenAttribute.spelling ++ closing) tag.tagName
          values tag.selfClosing, rest) : Except Error (StartTag × List Char)) =
      (fun values => (.tag tag.chars tag.tagName values tag.selfClosing, rest)) <$>
        tag.values := by
    rintro closing rfl
    rw [hspelling]
    cases tag.values <;> rfl
  cases hself : tag.selfClosing with
  | false =>
    have hc : tag.closing = ['>'] := by simp [SpelledTag.closing, hself]
    rw [hself] at hfinish
    rw [hc]
    exact hfinish ['>'] hc
  | true =>
    have hc : tag.closing = ['/', '>'] := by simp [SpelledTag.closing, hself]
    rw [hself] at hfinish
    rw [hc]
    exact hfinish ['/', '>'] hc

/-! ## Elements -/

namespace SpelledTag

variable {tag : SpelledTag}

/-- The head that a plain start tag is read as. -/
def head (tag : SpelledTag) (id : Nat) (values : List (String × Option String)) : Head :=
  Building.readHead id (String.ofList tag.chars) tag.tagName values tag.selfClosing

/-- The name that was written is kept. -/
theorem sourceTag_head (h : tag.IsPlain) (id : Nat) (values : List (String × Option String)) :
    (tag.head id values).sourceTag = String.ofList tag.name := by
  simp [head, Building.readHead, chars, tagName, length_lower h.name]

theorem tag_head (h : tag.IsPlain) (id : Nat) (values : List (String × Option String)) :
    (tag.head id values).tag = tag.tagName := by
  rw [Head.tag, sourceTag_head h, tagName]

theorem tagName_mem_rawTextTags (h : tag.opensRawText) : tag.tagName ∈ rawTextTags := by
  simp only [opensRawText, Bool.and_eq_true] at h
  simpa using h.2

theorem not_mem_tagName (h : tag.opensRawText) : '<' ∉ tag.tagName.toList := by
  have hmem := tagName_mem_rawTextTags h
  generalize tag.tagName = name at hmem
  simp only [rawTextTags, List.mem_cons, List.not_mem_nil, or_false] at hmem
  rcases hmem with rfl | rfl <;> decide

/-- An element with raw text can have children. -/
theorem isVoid_head (h : tag.IsPlain) (hopens : tag.opensRawText) (id : Nat)
    (values : List (String × Option String)) : (tag.head id values).isVoid = false := by
  have hmem := tagName_mem_rawTextTags hopens
  rw [Head.isVoid, tag_head h]
  generalize tag.tagName = name at hmem
  simp only [rawTextTags, List.mem_cons, List.not_mem_nil, or_false] at hmem
  rcases hmem with rfl | rfl <;> decide

end SpelledTag

end PageCompiler.Markup
