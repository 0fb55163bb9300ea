import PageCompiler.Proofs.Markup.AttributeValues
import PageCompiler.Proofs.Markup.ImpliedEnds
import PageCompiler.Proofs.Markup.RawText
import PageCompiler.Proofs.Markup.Tokens

/-!
# Trees that can be written

Not every tree that can be built can be written so that it is read back : a text must not hold
markup, a comment not its own end, an element with raw text nothing else, and no element may stand
where its start tag would end one around it. `Writable` collects this. The markup of a writable
forest is that of plain tokens (`chars_tokens`), one for each text and comment and for each element
its start tag, the tokens of its children and its end tag.
-/

namespace PageCompiler.Markup

namespace Forest

/-- The first node is a text. -/
def startsWithText : Forest → Bool
  | leaf (.text _) _ => true
  | _ => false

/-- What an element with raw text may hold : nothing, or one text without its end tag. -/
def IsRawText (tag : String) : Forest → Prop
  | nil => True
  | leaf (.text data) nil => data ≠ "" ∧ ¬(rawTextEnd tag).OccursIn data.toList
  | _ => False

/-- Forests that can be written inside elements with the tags `around`, innermost first. -/
inductive Writable : List String → Forest → Prop
  | nil {around : List String} : Writable around .nil
  | text {around : List String} {data : String} {next : Forest}
      (nonempty : data ≠ "") (plain : ∀ c ∈ data.toList, isPlain c)
      (apart : next.startsWithText = false) (rest : Writable around next) :
      Writable around (.leaf (.text data) next)
  | comment {around : List String} {data : String} {next : Forest}
      (inside : ¬commentEnd.OccursIn data.toList) (rest : Writable around next) :
      Writable around (.leaf (.comment data) next)
  /-- A self-closing element ends nothing, wherever it stands. -/
  | selfClosing {around : List String} {head : Head} {next : Forest} (built : head.IsBuilt)
      (closed : head.selfClosing = true) (rest : Writable around next) :
      Writable around (.element head .nil next)
  | void {around : List String} {head : Head} {next : Forest} (built : head.IsBuilt)
      (opened : head.selfClosing = false) (single : head.isVoid = true)
      (place : EndsNothing head.tag around) (rest : Writable around next) :
      Writable around (.element head .nil next)
  | rawText {around : List String} {head : Head} {children next : Forest} (built : head.IsBuilt)
      (opened : head.selfClosing = false) (raw : head.tag ∈ rawTextTags)
      (content : children.IsRawText head.tag) (place : EndsNothing head.tag around)
      (rest : Writable around next) : Writable around (.element head children next)
  | element {around : List String} {head : Head} {children next : Forest} (built : head.IsBuilt)
      (opened : head.selfClosing = false) (parent : head.isVoid = false)
      (ordinary : head.tag ∉ rawTextTags) (place : EndsNothing head.tag around)
      (inner : Writable (head.tag :: around) children) (rest : Writable around next) :
      Writable around (.element head children next)

/-- The tokens of a forest. -/
def tokens : Forest → List Token
  | nil => []
  | leaf (.text data) next => .text data.toList :: next.tokens
  | leaf (.comment data) next => .comment data.toList :: next.tokens
  | leaf (.markup _) next => next.tokens
  | element head children next =>
    (if head.selfClosing || head.isVoid then [.startTag head.spelledTag]
      else if head.tag ∈ rawTextTags then [.rawText head.spelledTag children.text.toList]
      else .startTag head.spelledTag :: (children.tokens ++ [.endTag head.sourceTag.toList])) ++
      next.tokens

end Forest

/-! ## Elements -/

namespace Head

variable {head : Head}

theorem IsBuilt.not_document (h : head.IsBuilt) : head.tag ≠ documentTag := by
  obtain ⟨c, rest, hname, hc, -⟩ := h.name
  rw [tag, ← String.ofList_toList (s := head.sourceTag), hname]
  exact lower_cons_ne hc rest (by decide)

/-- An element that cannot have children is its start tag. -/
theorem html_single (h : head.IsBuilt) (hs : (head.selfClosing || head.isVoid) = true)
    (inner : String) : head.html inner = head.startTag := by
  rw [html, if_neg h.not_document, if_pos hs]

/-- An element that can have children stands between its tags. -/
theorem html_parent (h : head.IsBuilt) (hs : head.selfClosing = false) (hv : head.isVoid = false)
    (inner : String) :
    (head.html inner).toList =
      head.spelledTag.chars ++ (inner.toList ++ Token.endTagChars head.sourceTag.toList) := by
  rw [html, if_neg h.not_document, if_neg (by simp [hs, hv]), endTag, if_pos h.hasEndTag]
  simp [toList_startTag h, Token.endTagChars]

end Head

/-! ## Elements with raw text -/

theorem opensRawText_spelledTag (head : Head) :
    head.spelledTag.opensRawText = (!head.selfClosing && rawTextTags.contains head.tag) := by
  rw [SpelledTag.opensRawText, Head.tagName_spelledTag]
  rfl

namespace Forest

theorem html_of_isRawText {tag : String} : ∀ {children : Forest}, children.IsRawText tag →
    children.html = children.text
  | nil, _ => rfl
  | leaf (.text _) nil, _ => rfl

theorem not_occursIn_of_isRawText {tag : String} :
    ∀ {children : Forest}, children.IsRawText tag →
      ¬(rawTextEnd tag).OccursIn children.text.toList
  | nil, _ => by
    rintro ⟨rest, hs, h⟩
    rw [List.suffix_nil.1 hs] at h
    exact h rfl
  | leaf (.text data) nil, h => by
    have htext : (leaf (.text data) nil).text = data := String.append_empty
    rw [htext]
    exact h.2

/-! ## Tokens -/

theorem tokens_single {head : Head} (h : (head.selfClosing || head.isVoid) = true)
    (children next : Forest) :
    (element head children next).tokens = .startTag head.spelledTag :: next.tokens := by
  simp [tokens, h]

theorem tokens_rawText {head : Head} (hs : head.selfClosing = false)
    (hraw : head.tag ∈ rawTextTags) (children next : Forest) :
    (element head children next).tokens =
      .rawText head.spelledTag children.text.toList :: next.tokens := by
  simp [tokens, hs, isVoid_of_mem_rawTextTags hraw, hraw]

theorem tokens_element {head : Head} (hs : head.selfClosing = false) (hv : head.isVoid = false)
    (hraw : head.tag ∉ rawTextTags) (children next : Forest) :
    (element head children next).tokens =
      .startTag head.spelledTag ::
        (children.tokens ++ .endTag head.sourceTag.toList :: next.tokens) := by
  simp [tokens, hs, hv, hraw]

variable {around : List String} {forest : Forest}

/-- The tokens of a writable forest are plain. -/
theorem Writable.tokens_isPlain (h : Writable around forest) :
    ∀ token ∈ forest.tokens, token.IsPlain := by
  induction h with
  | nil => simp [tokens]
  | text _ plain _ _ ih => simpa [tokens] using ⟨plain, ih⟩
  | comment inside _ ih => simpa [tokens] using ⟨inside, ih⟩
  | @selfClosing _ head _ built closed _ ih =>
    have hstart : (Token.startTag head.spelledTag).IsPlain := by
      refine ⟨Head.spelledTag_isPlain built, ?_⟩
      rw [opensRawText_spelledTag, closed]
      rfl
    rw [tokens_single (by simp [closed])]
    exact List.forall_mem_cons.2 ⟨hstart, ih⟩
  | @void _ head _ built _ single _ _ ih =>
    have hstart : (Token.startTag head.spelledTag).IsPlain := by
      refine ⟨Head.spelledTag_isPlain built, ?_⟩
      simp [opensRawText_spelledTag, not_mem_rawTextTags_of_isVoid single]
    rw [tokens_single (by simp [single])]
    exact List.forall_mem_cons.2 ⟨hstart, ih⟩
  | @rawText _ head _ _ built opened raw content _ _ ih =>
    have htoken := not_occursIn_of_isRawText content
    rw [← Head.tagName_spelledTag] at htoken
    rw [tokens_rawText opened raw]
    refine List.forall_mem_cons.2 ⟨⟨Head.spelledTag_isPlain built, ?_, htoken⟩, ih⟩
    simp [opensRawText_spelledTag, opened, raw]
  | @element _ head _ _ built opened parent ordinary _ _ _ ihInner ih =>
    have hstart : (Token.startTag head.spelledTag).IsPlain := by
      refine ⟨Head.spelledTag_isPlain built, ?_⟩
      simp [opensRawText_spelledTag, ordinary]
    have hend : (Token.endTag head.sourceTag.toList).IsPlain := built.name
    rw [tokens_element opened parent ordinary]
    simp only [List.forall_mem_cons, List.forall_mem_append]
    exact ⟨hstart, ihInner, hend, ih⟩

/-- The markup of a writable forest is that of its tokens. -/
theorem Writable.chars_tokens (h : Writable around forest) :
    forest.html.toList = Token.charsOf forest.tokens := by
  induction h with
  | nil => rfl
  | text _ _ _ _ ih => simp [html, Leaf.html, tokens, Token.chars, ih]
  | comment _ _ ih => simp [html, Leaf.html, tokens, Token.chars, ih]
  | @selfClosing _ head _ built closed _ ih =>
    rw [tokens_single (by simp [closed]), html, String.toList_append, ih,
      Head.html_single built (by simp [closed])]
    simp [Head.toList_startTag built, Token.chars]
  | @void _ head _ built _ single _ _ ih =>
    rw [tokens_single (by simp [single]), html, String.toList_append, ih,
      Head.html_single built (by simp [single])]
    simp [Head.toList_startTag built, Token.chars]
  | @rawText _ head _ _ built opened raw content _ _ ih =>
    rw [tokens_rawText opened raw, html, String.toList_append, ih,
      Head.html_parent built opened (isVoid_of_mem_rawTextTags raw), html_of_isRawText content]
    simp [Token.chars, Token.endTagChars, Head.spelledTag]
  | @element _ head _ _ built opened parent ordinary _ _ _ ihInner ih =>
    rw [tokens_element opened parent ordinary, html, String.toList_append, ih,
      Head.html_parent built opened parent]
    simp [Token.chars, Token.endTagChars, ihInner]

end Forest

end PageCompiler.Markup
