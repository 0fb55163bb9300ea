import Mathlib.Data.List.Forall2
import PageCompiler.Proofs.Build.ComponentScripts
import PageCompiler.Proofs.Markup.DocumentOrder
import PageCompiler.Proofs.Markup.RawText

/-!
# Declarations in the source

What a page declares is told by the start tags of its scripts as they are written in the source.
Each script stands for one such tag (`exists_scriptTags`), whose spelling it keeps and whose
attributes it has, each once. So the declarations can be read off the source
(`declarations_in_source`) : the names come in the order in which they are declared first, and
everything else about a component is from the last tag that declares it, even where an earlier one
says more.
-/

namespace PageCompiler.Build

open Markup

/-! ## What a start tag declares -/

/-- The components that a start tag declares. Of several attributes that list them the last one
counts. -/
def declaredBy (tag : WrittenTag) : List String :=
  Text.words (((Keyed.last? tag.attributes useAttribute).map fun value => value.getD "").getD "")

/-- The attributes of a start tag for the components that it declares, as they are written; one
without a value counts as empty. -/
def configuredBy (tag : WrittenTag) : List (String × String) :=
  (tag.attributes.filter fun entry =>
    dataStart.toList <+: entry.1.toList ∧ entry.1 ≠ useAttribute).map fun entry =>
      (entry.1, entry.2.getD "")

/-- The element has the spelling and the attributes of a start tag. -/
structure Describes (tag : WrittenTag) (head : Head) : Prop where
  startTag_eq : head.startTag = tag.spelling
  attributes_eq : head.attributes = Keyed.ofPairs tag.attributes

section

variable {tag : WrittenTag} {head : Head}

theorem Describes.declaredNames_eq (h : Describes tag head) :
    declaredNames head = declaredBy tag := by
  rw [declaredNames, Head.get?, h.attributes_eq, declaredBy,
    ← (Keyed.gathers_putAll tag.attributes).get?_eq]
  rfl

theorem Describes.gathers_configuration (h : Describes tag head) :
    Keyed.Gathers (configuredBy tag) (configuration head) := by
  have hconfigures : ∀ entry : String × Option String, configures entry.1 =
      decide (dataStart.toList <+: entry.1.toList ∧ entry.1 ≠ useAttribute) := by
    intro entry
    rw [Bool.eq_iff_iff, decide_eq_true_eq, configures, Bool.and_eq_true,
      List.isPrefixOf_iff_prefix, bne_iff_ne]
  have hattributes : configuration head = Keyed.putAll [] (configuredBy tag) := by
    have hfilter := Keyed.filter_putAll configures tag.attributes []
    have hmap := Keyed.map_putAll (fun value : Option String => value.getD "")
      (tag.attributes.filter fun entry => configures entry.1) []
    rw [configuration, h.attributes_eq]
    refine (congrArg _ hfilter).trans (hmap.trans ?_)
    simp only [configuredBy, ← hconfigures]
    rfl
  rw [hattributes]
  exact Keyed.gathers_putAll _

end

/-! ## The start tags of scripts -/

/-- An element that was read off a start tag is a script if that is the name of the tag. -/
structure ReadAs (tag : WrittenTag) (head : Head) : Prop extends Describes tag head where
  script_iff : tag.name = "script" ↔ head.tag = "script"

theorem readAs_readHead {spelling name : String} (h : name = Text.lower (writtenName spelling))
    (id : Nat) (attributes : List (String × Option String)) (selfClosing : Bool) :
    ReadAs ⟨spelling, name, attributes⟩
      (Building.readHead id spelling name attributes selfClosing) := by
  have hascii := rawTextTags_ascii "script" List.mem_cons_self
  refine ⟨⟨rfl, rfl⟩, fun hname => ?_, fun htag => ?_⟩
  · change name = "script" at hname
    exact (tag_readHead_of_ascii h (hname ▸ hascii) id attributes selfClosing).trans hname
  · exact (tag_readHead h id attributes selfClosing (htag ▸ hascii)).symm.trans htag

/-- The elements of a document are read off its start tags one by one. -/
theorem forall₂_headsOf : ∀ (events : List Event) (nextId : Nat),
    (∀ event ∈ events, event.IsNamed) →
      List.Forall₂ ReadAs (events.filterMap Event.startTag?) (headsOf nextId events)
  | [], _, _ => .nil
  | event :: events, nextId, h => by
    obtain ⟨hevent, hevents⟩ := List.forall_mem_cons.1 h
    cases event with
    | startTag spelling name attributes selfClosing =>
      exact .cons (readAs_readHead hevent.2 nextId attributes selfClosing)
        (forall₂_headsOf events (nextId + 1) hevents)
    | _ => exact forall₂_headsOf events nextId hevents

/-- The scripts of a page are those of the start tags in its source, in the same order. -/
theorem exists_scriptTags {text : String} {page : Page} (h : Page.ofMarkup text = .ok page) :
    ∃ tags, StandIn text.toList tags [] ∧ (∀ tag ∈ tags, tag.name = "script") ∧
      List.Forall₂ Describes tags (scripts page) := by
  obtain ⟨ht, -⟩ := Page.isTree_ofMarkup h
  obtain ⟨document, hparse, rfl⟩ := map_eq_ok h
  obtain ⟨events, hevents, rfl⟩ := map_eq_ok hparse
  refine ⟨(events.filterMap Event.startTag?).filter fun tag => tag.name = "script",
    (standIn_of_readEvents hevents).filter _,
    fun tag hmem => of_decide_eq_true (List.mem_filter.1 hmem).2, ?_⟩
  have hread := forall₂_headsOf events 1 (isNamed_of_readEvents hevents)
  rw [← heads_finish, List.forall₂_map_right_iff] at hread
  have hscript : Text.lower "script" = "script" := by decide
  rw [scripts, Page.heads_withTag ht, hscript]
  refine (List.rel_filter (fun tag head hboth => ?_) hread).imp fun tag head hboth => ?_
  · dsimp only
    rw [decide_eq_true_eq, decide_eq_true_eq]
    exact hboth.script_iff
  · exact ⟨hboth.startTag_eq, hboth.attributes_eq⟩

/-! ## Declarations -/

theorem flatMap_declaredNames : ∀ {tags : List WrittenTag} {heads : List Head},
    List.Forall₂ Describes tags heads →
      heads.flatMap declaredNames = tags.flatMap declaredBy
  | _, _, .nil => rfl
  | _, _, .cons h hrest => by
    rw [List.flatMap_cons, List.flatMap_cons, h.declaredNames_eq, flatMap_declaredNames hrest]

/-- The last element that declares a component was read off the last start tag that does. -/
theorem exists_getLast?_of_declarer? {tags : List WrittenTag} {heads : List Head}
    (h : List.Forall₂ Describes tags heads) {name : String} {head : Head}
    (hlast : declarer? heads name = some head) :
    ∃ tag, (tags.filter fun tag => name ∈ declaredBy tag).getLast? = some tag ∧
      Describes tag head := by
  have hall : List.Forall₂ Describes (tags.filter fun tag => name ∈ declaredBy tag)
      (heads.filter fun head => name ∈ declaredNames head) := by
    refine List.rel_filter (fun tag head hboth => ?_) h
    dsimp only
    rw [hboth.declaredNames_eq]
  rw [declarer?, List.getLast?_eq_head?_reverse] at hlast
  rw [List.getLast?_eq_head?_reverse]
  have hreverse := List.forall₂_reverse_iff.2 hall
  generalize (tags.filter fun tag => name ∈ declaredBy tag).reverse = last at hreverse ⊢
  generalize (heads.filter fun head => name ∈ declaredNames head).reverse = lastHeads at *
  cases hreverse with
  | nil => cases hlast
  | cons hboth _ =>
    cases hlast
    exact ⟨_, rfl, hboth⟩

/-- What the scripts of a page that was just read declare, as it is written in the source. The
components come in the order in which the start tags of the scripts name them first. Each has the
attributes of the last start tag that names it, in their order, and as its site that tag as it is
written. -/
theorem declarations_in_source {text : String} {page : Page} (h : Page.ofMarkup text = .ok page)
    {facts : Facts} (hf : facts.components = []) :
    ∃ tags, StandIn text.toList tags [] ∧ (∀ tag ∈ tags, tag.name = "script") ∧
      List.Forall₂ Describes tags (scripts page) ∧
      (readDeclarations page facts).2.components.keys = (tags.flatMap declaredBy).eraseDups ∧
      ∀ name ∈ (readDeclarations page facts).2.components.keys, ∃ tag declaration,
        (tags.filter fun tag => name ∈ declaredBy tag).getLast? = some tag ∧
        (readDeclarations page facts).2.components.get? name = some declaration ∧
        declaration.name = name ∧ declaration.site = tag.spelling ∧
        Keyed.Gathers (configuredBy tag) declaration.attributes := by
  obtain ⟨ht, -⟩ := Page.isTree_ofMarkup h
  obtain ⟨tags, hstand, hnames, hall⟩ := exists_scriptTags h
  refine ⟨tags, hstand, hnames, hall, ?_, fun name hmem => ?_⟩
  · rw [keys_readDeclarations ht hf, declared, flatMap_declaredNames hall]
  · obtain ⟨declaration, hfound⟩ := Keyed.exists_get?_of_mem_keys hmem
    obtain ⟨head, hlast, rfl⟩ := Option.map_eq_some_iff.1
      ((get?_readDeclarations ht hf name).2.symm.trans hfound)
    obtain ⟨tag, htag, hboth⟩ := exists_getLast?_of_declarer? hall hlast
    exact ⟨tag, _, htag, hfound, rfl, hboth.startTag_eq, hboth.gathers_configuration⟩

/-- Two scripts, the second of which declares again what the first one does, and less. -/
def againMarkup : String :=
  "<script data-slp-use='A B' data-x=1 data-y data-x=2>c</script><SCRIPT  data-slp-use=A>"

theorem declarations_in_source_again :
    ∃ page, Page.ofMarkup againMarkup = .ok page ∧
      (readDeclarations page (.start .js [])).2.components =
        [("A", ⟨"A", [], "<SCRIPT  data-slp-use=A>"⟩),
          ("B", ⟨"B", [("data-x", "2"), ("data-y", "")],
            "<script data-slp-use='A B' data-x=1 data-y data-x=2>"⟩)] ∧
      ∃ tags, StandIn againMarkup.toList tags [] ∧
        (tags.flatMap declaredBy).eraseDups = ["A", "B"] ∧
        ∃ tag, (tags.filter fun tag => "A" ∈ declaredBy tag).getLast? = some tag ∧
          tag.spelling = "<SCRIPT  data-slp-use=A>" ∧ Keyed.Gathers (configuredBy tag) [] := by
  have hrun : ((Page.ofMarkup againMarkup).toOption.any fun page =>
      (readDeclarations page (.start .js [])).2.components ==
        [("A", ⟨"A", [], "<SCRIPT  data-slp-use=A>"⟩),
          ("B", ⟨"B", [("data-x", "2"), ("data-y", "")],
            "<script data-slp-use='A B' data-x=1 data-y data-x=2>"⟩)]) = true := by
    decide +kernel
  obtain ⟨page, hread, hresult⟩ := exists_ok_of_any hrun
  rw [beq_iff_eq] at hresult
  have hstart : (Facts.start .js []).components = [] := rfl
  have hsource := declarations_in_source hread hstart
  rw [hresult] at hsource
  obtain ⟨tags, hstand, -, -, hkeys, hdeclared⟩ := hsource
  obtain ⟨tag, declaration, hlast, hfound, -, hsite, hgathers⟩ :=
    hdeclared "A" List.mem_cons_self
  obtain rfl := Option.some.inj hfound
  exact ⟨page, hread, hresult, tags, hstand, hkeys.symm, tag, hlast, hsite.symm, hgathers⟩

end PageCompiler.Build
