import PageCompiler.Proofs.Markup.AttributeValues
import PageCompiler.Proofs.Markup.OwnSpelling
import PageCompiler.Proofs.Markup.WrittenTags
import PageCompiler.Proofs.Page

/-!
# Edited attributes read back

The start tag of an element that was read is the one it was read off, until an attribute changes.
From then on it is written from the attributes. Either way reading it again gives the attributes
that the element has (`attributes_of_edits`) : the spelling is read as it was where it stood
(`readStartTag_spelling_self`), and a tag that is written from attributes stands for them
(`Head.values_spelledTag`).

For the second, the names have to be plain. Names that were read are in small letters
(`Head.IsReadOff.isSpellable`), as a reader would make them.
-/

namespace PageCompiler.Markup

/-! ## Elements and their start tags -/

/-- The element was read off a start tag that stands in the text, and is as it was read but for its
end tag. -/
def Head.IsReadOff (head : Head) (text spelling : String) : Prop :=
  (∃ c front, spelling.toList = '<' :: c :: front ∧ isLetter c) ∧
    ∃ before later name values, text.toList = before ++ (spelling.toList ++ later) ∧
      readStartTag (spelling.toList ++ later) =
        .ok (.tag spelling.toList name values head.selfClosing, later) ∧
      { head with hasEndTag := false } =
        Building.readHead head.id spelling name values head.selfClosing

theorem exists_of_mem_headsOf {head : Head} : ∀ {events : List Event} {nextId : Nat},
    head ∈ headsOf nextId events → ∃ event ∈ events, event.head? head.id = some head
  | event :: events, nextId, h => by
    cases hhead : event.head? nextId with
    | none =>
      simp only [headsOf, hhead] at h
      obtain ⟨other, hmem, heq⟩ := exists_of_mem_headsOf h
      exact ⟨other, List.mem_cons_of_mem _ hmem, heq⟩
    | some first =>
      simp only [headsOf, hhead] at h
      rcases List.mem_cons.1 h with rfl | h
      · refine ⟨event, List.mem_cons_self, ?_⟩
        cases event <;> cases hhead
        rfl
      · obtain ⟨other, hmem, heq⟩ := exists_of_mem_headsOf h
        exact ⟨other, List.mem_cons_of_mem _ hmem, heq⟩

/-- Every element of a page that was just read was read off a start tag. -/
theorem exists_isReadOff {text : String} {page : Page} (h : Page.ofMarkup text = .ok page)
    {head : Head} (hmem : head ∈ page.inside) :
    ∃ spelling, head.IsReadOff text spelling := by
  obtain ⟨document, hparse, rfl⟩ := map_eq_ok h
  obtain ⟨events, hevents, rfl⟩ := map_eq_ok hparse
  have hread : { head with hasEndTag := false } ∈ headsOf 1 events :=
    heads_finish events ▸ List.mem_map_of_mem hmem
  obtain ⟨event, hevent, hhead⟩ := exists_of_mem_headsOf hread
  cases event with
  | startTag spelling name values selfClosing =>
    have heq := (Option.some.inj hhead).symm
    obtain rfl : head.selfClosing = selfClosing := congrArg Head.selfClosing heq
    obtain ⟨hletter, later, ⟨before, hbefore⟩, hreading⟩ :=
      exists_reading_of_readEvents hevents hevent
    exact ⟨spelling, hletter, before, later, name, values, hbefore.symm, hreading, heq⟩
  | _ => cases hhead

/-! ## Names -/

theorem exists_lower_of_mem_attributesOf : ∀ {written : List WrittenAttribute}
    {values : List (String × Option String)}, attributesOf written = .ok values →
      ∀ key ∈ values.map Prod.fst, ∃ text, key = Text.lower text
  | [], _, h, key, hmem => by
    obtain rfl := Except.ok.inj h
    cases hmem
  | a :: written, values, h, key, hmem => by
    have hnext : ∃ value more, attributesOf written = .ok more ∧
        values = (Text.lower (String.ofList a.name), value) :: more := by
      rw [attributesOf] at h
      split at h <;> obtain ⟨value, -, h⟩ := bind_eq_ok h <;>
        obtain ⟨more, hmore, h⟩ := bind_eq_ok h <;>
        exact ⟨value, more, hmore, (Except.ok.inj h).symm⟩
    obtain ⟨value, more, hmore, rfl⟩ := hnext
    rcases List.mem_cons.1 hmem with rfl | hmem
    · exact ⟨String.ofList a.name, rfl⟩
    · exact exists_lower_of_mem_attributesOf hmore key hmem

/-- The start tag of an element, read alone, is a single element with the same name, end and
attributes. -/
def Head.ReadsBack (head : Head) : Prop :=
  ∃ again, parse head.startTag = .ok ⟨documentHead, .element again .nil .nil⟩ ∧
    again.sourceTag = head.sourceTag ∧ again.selfClosing = head.selfClosing ∧
    again.attributes = head.attributes

/-- What an element needs for its start tag to be written from its attributes. -/
structure Head.IsSpellable (head : Head) : Prop where
  name : IsName head.sourceTag.toList
  keys_nodup : head.attributes.keys.Nodup
  keys_small : ∀ key ∈ head.attributes.keys, IsSmallName key.toList

namespace Head.IsReadOff

variable {head : Head} {text spelling : String}

theorem written_eq (h : head.IsReadOff text spelling) : head.written = some spelling := by
  obtain ⟨-, _, _, _, _, -, -, heq⟩ := h
  exact congrArg Head.written heq

/-- The names of attributes that were read are distinct and in small letters. -/
theorem isSpellable (h : head.IsReadOff text spelling) (hname : IsName head.sourceTag.toList)
    (hkeys : ∀ key ∈ head.attributes.keys, IsName key.toList) : head.IsSpellable := by
  obtain ⟨⟨first, front, hfront, -⟩, before, later, name, values, -, hread, heq⟩ := h
  have hattributes : head.attributes = Keyed.ofPairs values := congrArg Head.attributes heq
  refine ⟨hname, hattributes ▸ Keyed.nodup_keys_ofPairs values,
    fun key hmem => ⟨hkeys key hmem, fun c hc => ?_⟩⟩
  have hgiven : key ∈ values.map Prod.fst := by
    rwa [hattributes, Keyed.ofPairs, ← Keyed.putAll, (Keyed.gathers_putAll values).keys_eq,
      List.mem_eraseDups] at hmem
  rw [hfront] at hread
  obtain ⟨written, rfl⟩ := exists_lower_of_mem_attributesOf
    (tagReading_of_readStartTag hread).values_eq key hgiven
  exact Text.isUpper_of_mem_lower hc

/-- The start tag that an element was read off is read back. -/
theorem readsBack (h : head.IsReadOff text spelling) : head.ReadsBack := by
  have hwritten := h.written_eq
  obtain ⟨⟨c, front, hfront, hc⟩, before, later, name, values, -, hread, heq⟩ := h
  have hself : readStartTag spelling.toList =
      .ok (.tag spelling.toList name values head.selfClosing, []) := by
    rw [hfront] at hread ⊢
    exact readStartTag_spelling_self hread
  refine ⟨Building.readHead 1 spelling name values head.selfClosing, ?_,
    (congrArg Head.sourceTag heq).symm, rfl, (congrArg Head.attributes heq).symm⟩
  rw [Head.startTag, hwritten]
  exact parse_startTag hfront hc hself

end Head.IsReadOff

/-- A start tag that is written from the attributes is read back. -/
theorem Head.IsBuilt.readsBack {head : Head} (h : head.IsBuilt) : head.ReadsBack := by
  have hplain := spelledTag_isPlain h
  obtain ⟨c, more, hname, hc, -⟩ := hplain.name
  have hchars := toList_startTag h
  have hfront : head.startTag.toList = '<' :: c ::
      (more ++ (SpelledTag.attributeChars head.spelledTag.attributes ++
        head.spelledTag.closing)) := by
    rw [hchars, SpelledTag.chars, hname]
    rfl
  have hread := readStartTag_chars hplain []
  rw [values_spelledTag h, List.append_nil, ← hchars] at hread
  have hagain := read_spelledTag h 1
  rw [SpelledTag.head, ← hchars, String.ofList_toList] at hagain
  exact ⟨_, parse_startTag hfront hc hread, by rw [hagain], by rw [hagain], by rw [hagain]⟩

/-- Whether an end tag follows does not matter to the start tag. -/
theorem Head.IsSpellable.readsBack {head : Head} (h : head.IsSpellable)
    (hwritten : head.written = none) : head.ReadsBack := by
  have hbuilt : ({ head with hasEndTag := true } : Head).IsBuilt :=
    ⟨h.name, h.keys_nodup, h.keys_small, hwritten, rfl⟩
  exact hbuilt.readsBack

/-! ## Edits -/

/-- An edit of the attributes of an element. -/
inductive AttributeEdit
  | set (name : String) (value : Option String)
  | remove (name : String)
  deriving Repr, DecidableEq

namespace AttributeEdit

/-- The attribute that is set or removed. -/
def name : AttributeEdit → String
  | set name _ => name
  | remove name => name

/-- The edit of an element. -/
def onHead (head : Head) : AttributeEdit → Head
  | set name value => head.set name value
  | remove name => head.drop name

/-- The edit of the element with a number in a page. -/
def onPage (id : Nat) (page : Page) : AttributeEdit → Page
  | set name value => page.setAttribute id name value
  | remove name => page.dropAttribute id name

/-- The edit removes an attribute that the element does not have. -/
def IsIdle (head : Head) : AttributeEdit → Prop
  | set .. => False
  | remove name => head.has name = false

variable {head : Head} {edit : AttributeEdit}

theorem onHead_of_isIdle (h : edit.IsIdle head) : edit.onHead head = head := by
  cases edit with
  | set name value => cases h
  | remove name => exact if_neg (Bool.eq_false_iff.1 h)

/-- An edit leaves the element as it is, or the start tag is no longer the written one. -/
theorem onHead_cases (head : Head) (edit : AttributeEdit) :
    edit.onHead head = head ∨ (edit.onHead head).written = none := by
  cases edit with
  | set name value => exact .inr rfl
  | remove name =>
    rw [onHead, Head.drop]
    split
    · exact .inr rfl
    · exact .inl rfl

/-- An edit changes nothing but attributes and what was written. -/
theorem onHead_eq (head : Head) (edit : AttributeEdit) : ∃ attributes written,
    edit.onHead head = { head with attributes, written } := by
  cases edit with
  | set name value => exact ⟨_, _, rfl⟩
  | remove name =>
    rw [onHead, Head.drop]
    split <;> exact ⟨_, _, rfl⟩

theorem id_onHead (head : Head) (edit : AttributeEdit) : (edit.onHead head).id = head.id := by
  obtain ⟨attributes, written, heq⟩ := onHead_eq head edit
  rw [heq]

theorem isSpellable_onHead (h : head.IsSpellable) (hname : IsSmallName edit.name.toList) :
    (edit.onHead head).IsSpellable := by
  cases edit with
  | set name value =>
    refine ⟨h.name, Keyed.nodup_keys_put h.keys_nodup name value, fun key hmem => ?_⟩
    have hkeys : key ∈ (Keyed.put head.attributes name value).keys := hmem
    rw [Keyed.keys_put] at hkeys
    split at hkeys
    · exact h.keys_small key hkeys
    · rcases List.mem_append.1 hkeys with hkey | hkey
      · exact h.keys_small key hkey
      · exact List.mem_singleton.1 hkey ▸ hname
  | remove name =>
    rw [onHead, Head.drop]
    split
    · have hkeys := Keyed.keys_without head.attributes name
      exact ⟨h.name, hkeys ▸ h.keys_nodup.filter _,
        fun key hmem => h.keys_small key (List.mem_of_mem_filter (hkeys ▸ hmem))⟩
    · exact h

end AttributeEdit

/-- The element after some edits, from the first to the last. -/
def Head.edited (head : Head) (edits : List AttributeEdit) : Head :=
  edits.foldl AttributeEdit.onHead head

/-- An element that comes from another by edits : it is the same element with the same name and
end, its start tag can be written, and it is written unless nothing has changed. -/
structure Head.ComesFrom (head source : Head) : Prop where
  id_eq : head.id = source.id
  sourceTag_eq : head.sourceTag = source.sourceTag
  selfClosing_eq : head.selfClosing = source.selfClosing
  isSpellable : head.IsSpellable
  unchanged : head = source ∨ head.written = none

section

variable {head source : Head} {edits : List AttributeEdit}

theorem comesFrom_onHead {edit : AttributeEdit} (h : head.ComesFrom source)
    (hname : IsSmallName edit.name.toList) : (edit.onHead head).ComesFrom source := by
  have hspellable := AttributeEdit.isSpellable_onHead h.isSpellable hname
  have hunchanged : edit.onHead head = source ∨ (edit.onHead head).written = none := by
    rcases AttributeEdit.onHead_cases head edit with hsame | hnone
    · rw [hsame]
      exact h.unchanged
    · exact .inr hnone
  obtain ⟨attributes, written, heq⟩ := AttributeEdit.onHead_eq head edit
  rw [heq] at hspellable hunchanged ⊢
  exact ⟨h.id_eq, h.sourceTag_eq, h.selfClosing_eq, hspellable, hunchanged⟩

theorem comesFrom_edited (h : source.IsSpellable)
    (hnames : ∀ edit ∈ edits, IsSmallName edit.name.toList) :
    (source.edited edits).ComesFrom source :=
  edits.foldlRecOn (motive := fun head => head.ComesFrom source) AttributeEdit.onHead
    ⟨rfl, rfl, rfl, h, .inl rfl⟩ fun _ hfrom edit hmem => comesFrom_onHead hfrom (hnames edit hmem)

/-- Removing what is not there changes nothing. -/
theorem edited_of_isIdle (h : ∀ edit ∈ edits, edit.IsIdle source) :
    source.edited edits = source :=
  edits.foldlRecOn (motive := fun head => head = source) AttributeEdit.onHead rfl
    fun _ hsame edit hmem => hsame ▸ AttributeEdit.onHead_of_isIdle (hsame ▸ h edit hmem)

end

/-! ## Edits of a page -/

/-- The page after some edits of the element with a number, from the first to the last. -/
def editedPage (page : Page) (id : Nat) (edits : List AttributeEdit) : Page :=
  edits.foldl (AttributeEdit.onPage id) page

section

variable {page : Page} {head : Head}

theorem onPage_eq (page : Page) (id : Nat) (edit : AttributeEdit) :
    edit.onPage id page = page.modify id fun e => { e with head := edit.onHead e.head } := by
  cases edit <;> rfl

theorem isTree_onPage (ht : page.IsTree) (id : Nat) (edit : AttributeEdit) :
    (edit.onPage id page).IsTree := by
  have hid : ∀ head : Head, (edit.onHead head).id = head.id := fun head => edit.id_onHead head
  rw [onPage_eq]
  exact Page.isTree_modify ht id hid

theorem onHead_mem_onPage (hmem : head ∈ page.whole.heads) (edit : AttributeEdit) :
    edit.onHead head ∈ (edit.onPage head.id page).whole.heads := by
  rw [onPage_eq, Page.heads_modify page head.id edit.onHead]
  exact List.mem_map.2 ⟨head, hmem, if_pos rfl⟩

/-- Edits of a page are edits of the element with the number. -/
theorem element?_editedPage : ∀ {page : Page} {head : Head} (edits : List AttributeEdit),
    page.IsTree → head ∈ page.whole.heads →
      ((editedPage page head.id edits).element? head.id).map Element.head =
        some (head.edited edits)
  | page, head, [], ht, hmem => (Page.element?_head_iff ht).2 ⟨hmem, rfl⟩
  | page, head, edit :: edits, ht, hmem => by
    have hrest := element?_editedPage edits (isTree_onPage ht head.id edit)
      (onHead_mem_onPage hmem edit)
    rw [AttributeEdit.id_onHead] at hrest
    exact hrest

/-- Edits of an element that was read : reading its start tag again gives a single element with its
name, its end and the attributes that it has after the edits, and as long as nothing has changed the
start tag is the one that it was read off. -/
theorem attributes_of_edits {text : String} (hread : Page.ofMarkup text = .ok page)
    (hmem : head ∈ page.inside) (edits : List AttributeEdit)
    (hname : IsName head.sourceTag.toList) (hkeys : ∀ key ∈ head.attributes.keys, IsName key.toList)
    (hnames : ∀ edit ∈ edits, IsSmallName edit.name.toList) :
    ∃ spelling, head.IsReadOff text spelling ∧
      ((editedPage page head.id edits).element? head.id).map Element.head =
        some (head.edited edits) ∧
      (head.edited edits).sourceTag = head.sourceTag ∧
      (head.edited edits).selfClosing = head.selfClosing ∧
      (head.edited edits).ReadsBack ∧
      ((∀ edit ∈ edits, edit.IsIdle head) → (head.edited edits).startTag = spelling) := by
  obtain ⟨spelling, hoff⟩ := exists_isReadOff hread hmem
  have hfrom := comesFrom_edited (hoff.isSpellable hname hkeys) hnames
  have hback : (head.edited edits).ReadsBack := by
    rcases hfrom.unchanged with hsame | hnone
    · rw [hsame]
      exact hoff.readsBack
    · exact hfrom.isSpellable.readsBack hnone
  refine ⟨spelling, hoff,
    element?_editedPage edits (Page.isTree_ofMarkup hread).1 (Page.inside_subset_whole page hmem),
    hfrom.sourceTag_eq, hfrom.selfClosing_eq, hback, fun hidle => ?_⟩
  rw [edited_of_isIdle hidle, Head.startTag, hoff.written_eq]

/-- A start tag in capitals with a reference in a value. It stays as it is when an attribute that it
does not have is removed, and is read back when a value with a quote, an ampersand and a bracket has
been set. -/
theorem attributes_of_edits_box :
    ∃ page kept edited, Page.ofMarkup "<DIV class=box data-x='1&amp;2'/>" = .ok page ∧
      ((editedPage page 1 [.remove "title"]).element? 1).map Element.head = some kept ∧
      kept.startTag = "<DIV class=box data-x='1&amp;2'/>" ∧
      ((editedPage page 1 [.set "title" (some "a\"&amp;>/"), .remove "class",
        .set "hidden" none]).element? 1).map Element.head = some edited ∧
      edited.ReadsBack ∧ edited.sourceTag = "DIV" ∧ edited.selfClosing = true ∧
      edited.attributes =
        [("data-x", some "1&2"), ("title", some "a\"&amp;>/"), ("hidden", none)] := by
  have hrun : (Page.ofMarkup "<DIV class=box data-x='1&amp;2'/>").toOption.any fun page =>
      ∃ head ∈ page.inside, head.id = 1 ∧ head.sourceTag = "DIV" ∧ head.selfClosing = true ∧
        (∀ key ∈ head.attributes.keys, IsName key.toList) ∧ head.has "title" = false ∧
        head.startTag = "<DIV class=box data-x='1&amp;2'/>" ∧
        (head.edited [.set "title" (some "a\"&amp;>/"), .remove "class",
            .set "hidden" none]).attributes =
          [("data-x", some "1&2"), ("title", some "a\"&amp;>/"), ("hidden", none)] := by
    decide +kernel
  obtain ⟨page, hread, hinside⟩ := exists_ok_of_any hrun
  obtain ⟨head, hmem, hid, htag, hend, hkeys, htitle, hstart, hattributes⟩ :=
    of_decide_eq_true hinside
  have hname : IsName head.sourceTag.toList := by
    rw [htag]
    decide
  obtain ⟨spelling, hoff, hkept, -, -, -, hidle⟩ :=
    attributes_of_edits hread hmem [.remove "title"] hname hkeys (by decide)
  obtain ⟨-, -, hedited, hsource, hclosing, hback, -⟩ :=
    attributes_of_edits hread hmem [.set "title" (some "a\"&amp;>/"), .remove "class",
      .set "hidden" none] hname hkeys (by decide)
  rw [hid] at hkept hedited
  rw [Head.startTag, hoff.written_eq] at hstart
  have htitles : ∀ edit ∈ [AttributeEdit.remove "title"], edit.IsIdle head :=
    fun edit hedit => List.mem_singleton.1 hedit ▸ htitle
  exact ⟨page, _, _, hread, hkept, (hidle htitles).trans hstart, hedited, hback,
    hsource.trans htag, hclosing.trans hend, hattributes⟩

end

end PageCompiler.Markup
