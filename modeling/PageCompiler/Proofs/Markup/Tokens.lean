import PageCompiler.Proofs.Markup.Delimiters
import PageCompiler.Proofs.Markup.SpelledTag

/-!
# Plain tokens

A plain token is a construct in its usual form : text without `<` and `&`, a reference with its
semicolon, a comment, a document type, an instruction, a start tag or an end tag, and a raw-text
element with all it holds. `Token.chars` is how it is written and `Token.events` what it means.

Each token but text is read off the front of whatever follows it in one step, or in three for raw
text (`readRound_token`). Text is different : texts one behind the other are read as one.
-/

namespace PageCompiler.Markup

/-- A construct in its usual form. -/
inductive Token
  | text (data : List Char)
  | namedReference (name : List Char)
  | numericReference (number : List Char)
  | comment (data : List Char)
  | doctype (data : List Char)
  | instruction (data : List Char)
  | startTag (tag : SpelledTag)
  | endTag (name : List Char)
  /-- A raw-text element : its start tag, its text, and an end tag with the same name. -/
  | rawText (tag : SpelledTag) (content : List Char)

/-- A text as events : none when it is empty. -/
def textEvents : List Char → List Event
  | [] => []
  | c :: rest => [.ofChars (c :: rest)]

namespace Token

/-- An end tag as it is written. -/
def endTagChars (name : List Char) : List Char :=
  '<' :: '/' :: (name ++ ['>'])

/-- The token as it is written. -/
def chars : Token → List Char
  | text data => data
  | namedReference name => '&' :: (name ++ [';'])
  | numericReference number => '&' :: '#' :: (number ++ [';'])
  | comment data => '<' :: '!' :: '-' :: '-' :: (data ++ ['-', '-', '>'])
  | doctype data => '<' :: '!' :: ("DOCTYPE".toList ++ data ++ ['>'])
  | instruction data => '<' :: '?' :: (data ++ ['>'])
  | startTag tag => tag.chars
  | endTag name => endTagChars name
  | rawText tag content => tag.chars ++ (content ++ endTagChars tag.name)

/-- The form of a plain token. -/
def IsPlain : Token → Prop
  | text data => ∀ c ∈ data, Markup.isPlain c
  | namedReference name =>
    ∃ c rest, name = c :: rest ∧ isLetter c ∧ ∀ d ∈ rest, isLetter d || isDigit d
  | numericReference number =>
    (number ≠ [] ∧ ∀ c ∈ number, isDigit c) ∨
      ∃ digits, number = 'x' :: digits ∧ digits ≠ [] ∧ ∀ c ∈ digits, isHexDigit c
  | comment data => ¬commentEnd.OccursIn data
  | doctype data => '>' ∉ data
  | instruction data => '>' ∉ data
  | startTag tag => tag.IsPlain ∧ tag.opensRawText = false
  | endTag name => IsName name
  | rawText tag content =>
    tag.IsPlain ∧ tag.opensRawText ∧ ¬(rawTextEnd tag.tagName).OccursIn content

instance : DecidablePred IsPlain
  | text data => decidable_of_iff (data.all Markup.isPlain) List.all_eq_true
  | namedReference [] => .isFalse (by rintro ⟨c, rest, h, -⟩; cases h)
  | namedReference (c :: rest) =>
    decidable_of_iff (isLetter c ∧ rest.all fun d => isLetter d || isDigit d) <| by
      rw [List.all_eq_true]
      constructor
      · exact fun h => ⟨c, rest, rfl, h⟩
      · rintro ⟨d, more, h, hname⟩
        obtain ⟨rfl, rfl⟩ := List.cons.inj h
        exact hname
  | numericReference number =>
    decidable_of_iff ((number ≠ [] ∧ number.all isDigit) ∨
        number = 'x' :: number.tail ∧ number.tail ≠ [] ∧ number.tail.all isHexDigit) <| by
      rw [List.all_eq_true, List.all_eq_true]
      refine or_congr_right ⟨fun h => ⟨number.tail, h⟩, ?_⟩
      rintro ⟨digits, rfl, h⟩
      exact ⟨rfl, h⟩
  | comment data => inferInstanceAs (Decidable (¬commentEnd.OccursIn data))
  | doctype data => inferInstanceAs (Decidable ('>' ∉ data))
  | instruction data => inferInstanceAs (Decidable ('>' ∉ data))
  | startTag tag => inferInstanceAs (Decidable (tag.IsPlain ∧ tag.opensRawText = false))
  | endTag name => inferInstanceAs (Decidable (IsName name))
  | rawText tag content => inferInstanceAs (Decidable
      (tag.IsPlain ∧ tag.opensRawText ∧ ¬(rawTextEnd tag.tagName).OccursIn content))

/-- The events of a token. -/
def events : Token → Except Error (List Event)
  | text data => .ok (textEvents data)
  | namedReference name => .ok [.namedReference (String.ofList name)]
  | numericReference number => .ok [.numericReference (String.ofList number)]
  | comment data => .ok [.comment (String.ofList data)]
  | doctype data => .ok [.declaration (String.ofList ("DOCTYPE".toList ++ data))]
  | instruction data => .ok [.instruction (String.ofList data)]
  | startTag tag => (fun event => [event]) <$> tag.event
  | endTag name => .ok [.endTag (Text.lower (String.ofList name))]
  | rawText tag content =>
    (fun event => event :: (textEvents content ++ [.endTag tag.tagName])) <$> tag.event

/-- The token is a text. -/
def isText : Token → Bool
  | text _ => true
  | _ => false

/-- The characters of tokens, one behind the other. -/
def charsOf (tokens : List Token) : List Char :=
  tokens.flatMap chars

/-- The events of tokens, one behind the other. -/
def eventsOf : List Token → Except Error (List Event)
  | [] => .ok []
  | token :: tokens => token.events >>= fun events =>
    (fun more => events ++ more) <$> eventsOf tokens

@[simp] theorem charsOf_nil : charsOf [] = [] :=
  rfl

@[simp] theorem charsOf_cons (token : Token) (tokens : List Token) :
    charsOf (token :: tokens) = token.chars ++ charsOf tokens :=
  rfl

@[simp] theorem charsOf_append (first second : List Token) :
    charsOf (first ++ second) = charsOf first ++ charsOf second :=
  List.flatMap_append

theorem eventsOf_append : ∀ first second : List Token,
    eventsOf (first ++ second) = eventsOf first >>= fun events =>
      (fun more => events ++ more) <$> eventsOf second
  | [], second => by
    rw [List.nil_append, eventsOf]
    cases eventsOf second <;> rfl
  | token :: first, second => by
    rw [List.cons_append, eventsOf, eventsOf, eventsOf_append first second]
    cases token.events with
    | error e => rfl
    | ok events =>
      cases eventsOf first with
      | error e => rfl
      | ok more =>
        cases eventsOf second with
        | error e => rfl
        | ok last => exact congrArg Except.ok (List.append_assoc events more last).symm

end Token

/-! ## Steps -/

/-- A round with events in front. -/
def Round.after (events : List Event) (round : Round) : Round :=
  { round with events := events ++ round.events }

theorem Round.after_after (first second : List Event) (round : Round) :
    (round.after second).after first = round.after (first ++ second) := by
  simp [Round.after]

/-- A round goes on behind a step. -/
theorem readRound_of_next {final : Bool} {raw opened : RawText} {text rest : List Char}
    {events : List Event} (h : step final raw text = .ok (.next events opened rest))
    (hne : text ≠ []) :
    readRound final raw text = Round.after events <$> readRound final opened rest := by
  cases text with
  | nil => exact absurd rfl hne
  | cons c text =>
    rw [readRound]
    split
    · next hs => simp [h] at hs
    · next hs => simp [h] at hs
    · next hs =>
      simp only [h, Except.ok.injEq, Step.next.injEq] at hs
      obtain ⟨rfl, rfl, rfl⟩ := hs
      rfl

theorem readRound_of_error {final : Bool} {raw : RawText} {text : List Char} {e : Error}
    (h : step final raw text = .error e) (hne : text ≠ []) :
    readRound final raw text = .error e := by
  cases text with
  | nil => exact absurd rfl hne
  | cons c text =>
    rw [readRound]
    split <;> simp_all

theorem readRound_nil (final : Bool) (raw : RawText) :
    readRound final raw [] = .ok ⟨[], raw, []⟩ := by
  rw [readRound]

theorem step_of_readConstruct {final : Bool} {c : Char} {text rest : List Char}
    {events : List Event} {opened : RawText}
    (h : readConstruct none ('<' :: c :: text) = .ok (some (events, opened, rest))) :
    step final none ('<' :: c :: text) = .ok (.next events opened rest) := by
  simp [step, stepConstruct, h]

theorem step_of_readDeclaration {final : Bool} {c : Char} {text rest : List Char} {event : Event}
    (hc : c = '!' ∨ c = '?') (h : readDeclaration ('<' :: c :: text) = .ok (some (event, rest))) :
    step final none ('<' :: c :: text) = .ok (.next [event] none rest) := by
  apply step_of_readConstruct
  have hletter : isLetter c = false := by rcases hc with rfl | rfl <;> decide
  have hslash : c ≠ '/' := by rcases hc with rfl | rfl <;> decide
  simp [readConstruct, hletter, hslash, hc, h]

/-! ## References -/

theorem step_namedReference {final : Bool} {name : List Char}
    (h : (Token.namedReference name).IsPlain) (rest : List Char) :
    step final none ((Token.namedReference name).chars ++ rest) =
      .ok (.next [.namedReference (String.ofList name)] none rest) := by
  obtain ⟨c, more, rfl, hc, hmore⟩ := h
  have hread : ∀ d ∈ more, isReferenceNameChar d := by
    intro d hd
    have := hmore d hd
    simp_all [isReferenceNameChar]
  have hend : ∀ d ∈ (';' :: rest).head?, isReferenceNameChar d = false := by
    rintro d ⟨⟩
    decide
  have htext : (Token.namedReference (c :: more)).chars ++ rest =
      '&' :: c :: (more ++ ';' :: rest) := by simp [Token.chars]
  have hname : nameOfReference? (c :: (more ++ ';' :: rest)) = some (c :: more, rest) := by
    simp only [nameOfReference?, hc, if_true, dropWhile_append hread hend,
      takeWhile_append hread hend]
    rfl
  have hhash := (letter_begins hc).2.1
  rw [htext, step]
  simp only [stepReference, hname]

theorem splitNumber?_append {number : List Char} (h : (Token.numericReference number).IsPlain)
    (rest : List Char) :
    splitNumber? (number ++ ';' :: rest) = some (number, ';' :: rest) := by
  have hsplit : ∀ {p : Char → Bool} {digits : List Char}, (∀ c ∈ digits, p c) → p ';' = false →
      (digits ++ ';' :: rest).takeWhile p = digits ∧
        (digits ++ ';' :: rest).dropWhile p = ';' :: rest := by
    intro p digits hdigits hp
    have hend : ∀ c ∈ (';' :: rest).head?, p c = false := by
      rintro c ⟨⟩
      exact hp
    exact ⟨takeWhile_append hdigits hend, dropWhile_append hdigits hend⟩
  unfold splitNumber?
  rcases h with ⟨hne, hdigits⟩ | ⟨digits, rfl, hne, hdigits⟩
  · obtain ⟨htake, hdrop⟩ := hsplit hdigits (by decide)
    rw [htake, hdrop, if_pos hne]
  · obtain ⟨htake, hdrop⟩ := hsplit hdigits (by decide)
    have hmark : isDigit 'x' = false := by decide
    simp [hmark, htake, hdrop, hne]

theorem step_numericReference {final : Bool} {number : List Char}
    (h : (Token.numericReference number).IsPlain) (rest : List Char) :
    step final none ((Token.numericReference number).chars ++ rest) =
      .ok (.next [.numericReference (String.ofList number)] none rest) := by
  have htext : (Token.numericReference number).chars ++ rest =
      '&' :: '#' :: (number ++ ';' :: rest) := by simp [Token.chars]
  have hsemicolon : isHexDigit ';' = false := by decide
  have hnumber : numericReference? (number ++ ';' :: rest) = some (number, rest) := by
    simp [numericReference?, splitNumber?_append h rest, hsemicolon, dropSemicolon]
  rw [htext, step]
  simp only [stepReference, hnumber]

/-! ## Comments, document types and instructions -/

theorem step_comment {final : Bool} {data : List Char} (h : (Token.comment data).IsPlain)
    (rest : List Char) :
    step final none ((Token.comment data).chars ++ rest) =
      .ok (.next [.comment (String.ofList data)] none rest) := by
  have htext : (Token.comment data).chars ++ rest =
      '<' :: '!' :: '-' :: '-' :: (data ++ '-' :: '-' :: '>' :: rest) := by simp [Token.chars]
  rw [htext]
  apply step_of_readDeclaration (.inl rfl)
  simp [readDeclaration, readTo, splitAt?_commentEnd h]

theorem step_doctype {final : Bool} {data : List Char} (h : (Token.doctype data).IsPlain)
    (rest : List Char) :
    step final none ((Token.doctype data).chars ++ rest) =
      .ok (.next [.declaration (String.ofList ("DOCTYPE".toList ++ data))] none rest) := by
  have hword : '>' ∉ "DOCTYPE".toList ++ data := by
    have : '>' ∉ "DOCTYPE".toList := by decide
    simp only [List.mem_append, not_or]
    exact ⟨this, h⟩
  have htext : (Token.doctype data).chars ++ rest =
      '<' :: '!' :: ("DOCTYPE".toList ++ data ++ '>' :: rest) := by simp [Token.chars]
  have hopening : Text.lower (String.ofList (('<' :: '!' :: ("DOCTYPE".toList ++ data ++
      '>' :: rest)).take doctypeOpening.length)) = doctypeOpening := by
    have htake : ('<' :: '!' :: ("DOCTYPE".toList ++ data ++ '>' :: rest)).take
        doctypeOpening.length = "<!DOCTYPE".toList := rfl
    rw [htake]
    decide
  have hread : readDeclaration ('<' :: '!' :: ("DOCTYPE".toList ++ data ++ '>' :: rest)) =
      .ok (readTo angle .declaration
        ('<' :: '!' :: ("DOCTYPE".toList ++ data ++ '>' :: rest)) 2) := by
    unfold readDeclaration
    split
    · next heq => simp at heq
    · next heq => simp at heq
    · next heq => simp at heq
    · rw [if_pos hopening]
  rw [htext]
  apply step_of_readDeclaration (.inl rfl)
  rw [hread, readTo, List.drop_succ_cons, List.drop_succ_cons, List.drop_zero,
    splitAt?_angle hword]
  rfl

theorem step_instruction {final : Bool} {data : List Char} (h : (Token.instruction data).IsPlain)
    (rest : List Char) :
    step final none ((Token.instruction data).chars ++ rest) =
      .ok (.next [.instruction (String.ofList data)] none rest) := by
  have htext : (Token.instruction data).chars ++ rest =
      '<' :: '?' :: (data ++ '>' :: rest) := by simp [Token.chars]
  rw [htext]
  apply step_of_readDeclaration (.inr rfl)
  simp [readDeclaration, readTo, splitAt?_angle h]

/-! ## Tags -/

theorem step_startTag {tag : SpelledTag} (h : tag.IsPlain) (final : Bool) (rest : List Char) :
    step final none (tag.chars ++ rest) =
      (fun event => .next [event] (if tag.opensRawText then some tag.tagName else none) rest) <$>
        tag.event := by
  obtain ⟨c, more, hname, hc, -⟩ := h.name
  obtain ⟨body, htext⟩ : ∃ body, tag.chars ++ rest = '<' :: c :: body :=
    ⟨more ++ (SpelledTag.attributeChars tag.attributes ++ tag.closing) ++ rest, by
      simp [SpelledTag.chars, hname]⟩
  have hread := readStartTag_chars h rest
  rw [htext] at hread ⊢
  cases hvalues : tag.values with
  | error e =>
    rw [hvalues] at hread
    have hread : readStartTag ('<' :: c :: body) = .error e := hread
    have hstep : step final none ('<' :: c :: body) = .error e := by
      simp [step, stepConstruct, readConstruct, hc, hread]
    rw [hstep, SpelledTag.event, hvalues]
    rfl
  | ok values =>
    rw [hvalues] at hread
    have hread : readStartTag ('<' :: c :: body) =
        .ok (.tag tag.chars tag.tagName values tag.selfClosing, rest) := hread
    rw [SpelledTag.event, hvalues]
    apply step_of_readConstruct
    simp [readConstruct, hc, hread, SpelledTag.opensRawText]

/-- The bracket that ends an end tag is the first one. -/
theorem splitAt?_endTagChars {name : List Char} (h : '>' ∉ name) (rest : List Char) :
    splitAt? angle ((Token.endTagChars name ++ rest).drop 1) = some ('/' :: name, rest) := by
  have htext : (Token.endTagChars name ++ rest).drop 1 = ('/' :: name) ++ '>' :: rest := by
    simp [Token.endTagChars]
  rw [htext]
  exact splitAt?_angle (by simp [h]) rest

/-- An end tag is well-formed if only blanks stand behind what goes on with its name. -/
theorem plainEndTag?_endTagChars {c : Char} {more : List Char} (hc : isLetter c)
    (h : '>' ∉ more) (rest : List Char) :
    plainEndTag? (Token.endTagChars (c :: more) ++ rest) =
      if (more.dropWhile isEndTagNameChar).all Text.isBlank then
        some (c :: more.takeWhile isEndTagNameChar, rest)
      else none := by
  have htext : Token.endTagChars (c :: more) ++ rest = '<' :: '/' :: c :: (more ++ '>' :: rest) := by
    simp [Token.endTagChars]
  have hblank : ¬Text.isBlank c = true :=
    Bool.eq_false_iff.1 (nameChar_reads (isNameChar_of_isLetter hc)).2.2.2
  have hstop : isEndTagNameChar '>' = false := by decide
  have hbehind : '>' ∉ more.dropWhile isEndTagNameChar :=
    fun hmem => h ((List.dropWhile_suffix _).subset hmem)
  simp only [htext, plainEndTag?, List.drop_succ_cons, List.drop_zero,
    List.dropWhile_cons_of_neg hblank, hc, if_true, takeWhile_append_cons hstop,
    dropWhile_append_cons hstop, blanksAngle_append_angle hbehind]
  split <;> rfl

/-- An end tag is read inside its own raw text as well as outside raw text. -/
theorem readEndTag_chars {name : List Char} (h : IsName name) {raw : RawText}
    (hraw : raw = none ∨ raw = some (Text.lower (String.ofList name))) (rest : List Char) :
    readEndTag raw (Token.endTagChars name ++ rest) =
      some ([.endTag (Text.lower (String.ofList name))], none, rest) := by
  have hangle : '>' ∉ name := fun hmem => absurd (h.nameChar '>' hmem) (by decide)
  obtain ⟨c, more, rfl, hc, hmore⟩ := h
  have hreads : ∀ d ∈ more, isEndTagNameChar d := fun d hd => (nameChar_reads (hmore d hd)).2.2.1
  have hplain : plainEndTag? (Token.endTagChars (c :: more) ++ rest) = some (c :: more, rest) := by
    rw [plainEndTag?_endTagChars hc (List.not_mem_of_not_mem_cons hangle),
      List.dropWhile_eq_nil_iff.2 hreads, List.takeWhile_eq_self_iff.2 hreads]
    rfl
  have hopen : (raw.isSome && raw != some (Text.lower (String.ofList (c :: more)))) = false := by
    rcases hraw with rfl | rfl <;> simp
  rw [readEndTag, splitAt?_endTagChars hangle, Option.map_some, hplain]
  simp only [hopen]
  rfl

theorem step_endTag {final : Bool} {name : List Char} (h : IsName name) (rest : List Char) :
    step final none ((Token.endTag name).chars ++ rest) =
      .ok (.next [.endTag (Text.lower (String.ofList name))] none rest) := by
  have hread := readEndTag_chars h (.inl rfl) rest
  have htext : Token.endTagChars name ++ rest = '<' :: '/' :: (name ++ '>' :: rest) := by
    simp [Token.endTagChars]
  have hslash : isLetter '/' = false := by decide
  rw [Token.chars, htext]
  rw [htext] at hread
  apply step_of_readConstruct
  simp [readConstruct, hslash, hread]

/-! ## Raw text -/

/-- Raw text runs to the first end tag of its element. -/
theorem splitAt?_rawTextEnd {tag : SpelledTag} {content : List Char}
    (h : (Token.rawText tag content).IsPlain) (rest : List Char) :
    splitAt? (rawTextEnd tag.tagName) (content ++ (Token.endTagChars tag.name ++ rest)) =
      some (content, rest) := by
  obtain ⟨hplain, hopens, hcontent⟩ := h
  have htext : Token.endTagChars tag.name ++ rest =
      '<' :: ('/' :: (tag.name ++ '>' :: rest)) := by simp [Token.endTagChars]
  rw [htext]
  refine splitAt?_append (rawTextEnd_name hplain.name rest) fun d more hs => ?_
  exact rawTextEnd_append (SpelledTag.not_mem_tagName hopens)
    (Delimiter.eq_none_of_not_occursIn hcontent hs) (by simp) _

theorem step_content {tag : SpelledTag} {c : Char} {content : List Char}
    (h : (Token.rawText tag (c :: content)).IsPlain) (final : Bool) (rest : List Char) :
    step final (some tag.tagName) (c :: content ++ (Token.endTagChars tag.name ++ rest)) =
      .ok (.next [.ofChars (c :: content)] (some tag.tagName)
        (Token.endTagChars tag.name ++ rest)) := by
  rw [step, splitAt?_rawTextEnd h]
  simp

theorem step_rawTextEnd {tag : SpelledTag} (h : (Token.rawText tag []).IsPlain) (final : Bool)
    (rest : List Char) :
    step final (some tag.tagName) (Token.endTagChars tag.name ++ rest) =
      .ok (.next [.endTag tag.tagName] none rest) := by
  have hsplit := splitAt?_rawTextEnd h rest
  have hread : readEndTag (some tag.tagName) (Token.endTagChars tag.name ++ rest) =
      some ([.endTag tag.tagName], none, rest) := readEndTag_chars h.1.name (.inr rfl) rest
  have htext : Token.endTagChars tag.name ++ rest = '<' :: '/' :: (tag.name ++ '>' :: rest) := by
    simp [Token.endTagChars]
  have hslash : isLetter '/' = false := by decide
  rw [List.nil_append] at hsplit
  rw [htext] at hsplit hread ⊢
  rw [step, hsplit]
  simp [stepConstruct, readConstruct, hslash, hread]

/-- Inside raw text its content and its end tag are read, whatever follows. -/
theorem readRound_content {tag : SpelledTag} {content : List Char}
    (h : (Token.rawText tag content).IsPlain) (final : Bool) (rest : List Char) :
    readRound final (some tag.tagName) (content ++ (Token.endTagChars tag.name ++ rest)) =
      Round.after (textEvents content ++ [.endTag tag.tagName]) <$> readRound final none rest := by
  have hempty : (Token.rawText tag []).IsPlain := by
    refine ⟨h.1, h.2.1, ?_⟩
    rintro ⟨text, hs, hne⟩
    rw [List.suffix_nil.1 hs] at hne
    exact hne rfl
  have hend := readRound_of_next (step_rawTextEnd hempty final rest) (by simp [Token.endTagChars])
  cases content with
  | nil => exact hend
  | cons c content =>
    rw [readRound_of_next (step_content h final rest) (by simp), hend, Functor.map_map]
    simp only [Round.after_after]
    rfl

/-! ## Tokens -/

/-- Every token but text is read off the front of what follows it. -/
theorem readRound_token {token : Token} (h : token.IsPlain) (ht : token.isText = false)
    (final : Bool) (rest : List Char) :
    readRound final none (token.chars ++ rest) = token.events >>= fun events =>
      Round.after events <$> readRound final none rest := by
  cases token with
  | text data => exact absurd ht (by simp [Token.isText])
  | namedReference name =>
    exact readRound_of_next (step_namedReference h rest) (by simp [Token.chars])
  | numericReference number =>
    exact readRound_of_next (step_numericReference h rest) (by simp [Token.chars])
  | comment data => exact readRound_of_next (step_comment h rest) (by simp [Token.chars])
  | doctype data => exact readRound_of_next (step_doctype h rest) (by simp [Token.chars])
  | instruction data => exact readRound_of_next (step_instruction h rest) (by simp [Token.chars])
  | startTag tag =>
    have hstep := step_startTag h.1 final rest
    rw [h.2] at hstep
    cases hevent : tag.event with
    | error e =>
      rw [hevent] at hstep
      simp only [Token.events, hevent]
      exact readRound_of_error hstep (by simp [Token.chars, SpelledTag.chars])
    | ok event =>
      rw [hevent] at hstep
      simp only [Token.events, hevent]
      exact readRound_of_next hstep (by simp [Token.chars, SpelledTag.chars])
  | endTag name => exact readRound_of_next (step_endTag h rest) (by simp [Token.chars,
      Token.endTagChars])
  | rawText tag content =>
    have hstep := step_startTag h.1 final
      (content ++ (Token.endTagChars tag.name ++ rest))
    rw [h.2.1] at hstep
    have htext : (Token.rawText tag content).chars ++ rest =
        tag.chars ++ (content ++ (Token.endTagChars tag.name ++ rest)) := by simp [Token.chars]
    rw [htext]
    cases hevent : tag.event with
    | error e =>
      rw [hevent] at hstep
      simp only [Token.events, hevent]
      exact readRound_of_error hstep (by simp [SpelledTag.chars])
    | ok event =>
      rw [hevent] at hstep
      have hround := readRound_of_next hstep (by simp [SpelledTag.chars])
      simp only [Token.events, hevent]
      rw [hround]
      simp only [if_true]
      rw [readRound_content h, Functor.map_map]
      simp only [Round.after_after]
      rfl

end PageCompiler.Markup
