import PageCompiler.Page
import PageCompiler.Proofs.Markup.Numbering
import PageCompiler.Proofs.Markup.Removal

/-!
# Pages as trees

The document and the elements outside it make one forest, `whole`, on which the operations of a page
do what their namesakes do on forests. As long as the numbers in it are distinct and no element was
appended anywhere (`IsTree`), removing an element takes it out of the document with everything in it
(`root_remove`) and puts it beside the document, so that no head is lost (`heads_remove_perm`).

A page that was just read is such a tree (`isTree_ofMarkup`).
-/

namespace PageCompiler

open Markup

/-- Elements one behind the other. -/
def Markup.Forest.ofElements : List Element → Forest
  | [] => .nil
  | e :: rest => .element e.head e.children (ofElements rest)

namespace Page

/-- The document and, behind it, the elements outside it. -/
def whole (page : Page) : Forest :=
  .ofElements (page.root :: page.loose)

theorem whole_eq (page : Page) :
    page.whole =
      .element page.root.head page.root.children (.ofElements page.loose) :=
  rfl

/-- The numbers are distinct, and every element has the parent under which it stands. -/
structure IsTree (page : Page) : Prop where
  ids_nodup : page.whole.ids.Nodup
  not_adopted : page.adopted = []

/-- The heads of the elements inside the document, in document order. -/
def inside (page : Page) : List Head :=
  page.root.children.heads

end Page

/-! ## Operations on the whole -/

namespace Markup.Forest

theorem find?_ofElements (id : Nat) : ∀ elements : List Element,
    (ofElements elements).find? id = elements.findSome? (Element.find? id)
  | [] => rfl
  | e :: rest => by
    rw [ofElements, find?, find?_ofElements id rest, List.findSome?_cons, Element.find?]
    by_cases hid : e.head.id = id
    · rw [if_pos hid, if_pos hid]
    · rw [if_neg hid, if_neg hid]
      cases e.children.find? id <;> rfl

theorem modify_ofElements (id : Nat) (change : Element → Element) : ∀ elements : List Element,
    (ofElements elements).modify id change = ofElements (elements.map (Element.modify id change))
  | [] => rfl
  | e :: rest => by
    rw [ofElements, modify, modify_ofElements id change rest, List.map_cons, ofElements]
    rfl

theorem ofElements_inj : ∀ {first second : List Element},
    ofElements first = ofElements second → first = second
  | [], [], _ => rfl
  | e :: first, other :: second, h => by
    obtain ⟨hhead, hchildren, hrest⟩ := element.inj h
    obtain ⟨head, children⟩ := e
    obtain rfl : head = other.head := hhead
    obtain rfl : children = other.children := hchildren
    rw [ofElements_inj hrest]

/-- Where numbers are distinct, an element that has a parent has the same one in the whole. -/
theorem parentOf?_ofElements {id parent : Nat} : ∀ {elements : List Element},
    (ofElements elements).ids.Nodup →
      elements.findSome? (Element.parentOf? id) = some parent →
      ∀ owner, (ofElements elements).parentOf? id owner = some parent
  | e :: rest, hn, h, owner => by
    obtain ⟨⟨hhc, hhn⟩, -, hnn, -⟩ := nodup_element hn
    rw [List.findSome?_cons] at h
    rw [ofElements, parentOf?]
    cases hc : e.parentOf? id with
    | some inner =>
      rw [hc] at h
      obtain rfl := Option.some.inj h
      have hm := (parentOf?_eq_some e.children hc).2
      have hid : e.head.id ≠ id := fun he => hhc (he ▸ hm)
      rw [if_neg hid, show e.children.parentOf? id e.head.id = some inner from hc]
      rfl
    | none =>
      rw [hc] at h
      have hrest := parentOf?_ofElements hnn h owner
      have hid : e.head.id ≠ id :=
        fun he => hhn (he ▸ (parentOf?_eq_some (ofElements rest) hrest).2)
      rw [if_neg hid, show e.children.parentOf? id e.head.id = none from hc]
      exact hrest

end Markup.Forest

namespace Page

variable {page : Page}

theorem element?_eq_find? (page : Page) (id : Nat) : page.element? id = page.whole.find? id := by
  rw [whole, Forest.find?_ofElements, List.findSome?_cons, element?]
  cases page.root.find? id <;> rfl

theorem whole_modify (page : Page) (id : Nat) (change : Element → Element) :
    (page.modify id change).whole = page.whole.modify id change := by
  rw [whole, whole, Forest.modify_ofElements]
  rfl

theorem parentOf?_eq_some (ht : page.IsTree) {id parent : Nat}
    (h : page.parentOf? id = some parent) (owner : Nat) :
    page.whole.parentOf? id owner = some parent := by
  refine Forest.parentOf?_ofElements ht.ids_nodup ?_ owner
  rw [parentOf?, ht.not_adopted, List.lookup_nil] at h
  rw [List.findSome?_cons, ← h]
  cases page.root.parentOf? id <;> rfl

/-- In a tree an element is found by its number, wherever it is. -/
theorem element?_head_iff (ht : page.IsTree) {id : Nat} {head : Head} :
    (page.element? id).map Element.head = some head ↔
      head ∈ page.whole.heads ∧ head.id = id := by
  rw [element?_eq_find?]
  exact Forest.find?_head_iff ht.ids_nodup

theorem inside_subset_whole (page : Page) : page.inside ⊆ page.whole.heads := by
  intro head hmem
  rw [whole_eq, Forest.heads]
  exact List.mem_cons_of_mem _ (List.mem_append_left _ hmem)

theorem nodup_inside (ht : page.IsTree) :
    page.root.head.id ∉ page.root.children.ids ∧ page.root.children.ids.Nodup := by
  have hwhole := ht.ids_nodup
  rw [whole_eq] at hwhole
  obtain ⟨⟨hroot, -⟩, hn, -⟩ := Forest.nodup_element hwhole
  exact ⟨hroot, hn⟩

theorem eq_of_mem_inside (ht : page.IsTree) {head other : Head} (hh : head ∈ page.inside)
    (ho : other ∈ page.inside) (hid : head.id = other.id) : head = other :=
  List.inj_on_of_nodup_map (nodup_inside ht).2 hh ho hid

/-! ## Removing -/

theorem parentOf?_eq_none (ht : page.IsTree) {id : Nat} (h : page.parentOf? id = none) :
    id ∉ page.root.children.ids := by
  rw [parentOf?, ht.not_adopted, List.lookup_nil] at h
  cases hr : page.root.parentOf? id with
  | none => exact Forest.parentOf?_eq_none page.root.children hr
  | some parent =>
    rw [hr] at h
    cases h

/-- A removal takes the element out of the whole and puts it beside the document, if it has a
parent. -/
theorem remove_cases (ht : page.IsTree) (id : Nat) :
    (page.remove id = page ∧ id ∉ page.root.children.ids) ∨
      ∃ element loose, page.whole.find? id = some element ∧
        page.remove id =
          { page with
            root := ⟨page.root.head, page.root.children.without id⟩, loose := element :: loose } ∧
        page.whole.without id =
          .element page.root.head (page.root.children.without id) (.ofElements loose) := by
  cases hp : page.parentOf? id with
  | none =>
    left
    refine ⟨?_, parentOf?_eq_none ht hp⟩
    simp only [remove, hp]
  | some parent =>
    have hwhole := parentOf?_eq_some ht hp (parent + 1)
    cases he : page.element? id with
    | none =>
      rw [element?_eq_find?] at he
      exact absurd (Forest.parentOf?_eq_some page.whole hwhole).2
        (Forest.find?_eq_none page.whole he)
    | some element =>
      right
      have hout := (Forest.modify_eraseNode page.whole ht.ids_nodup hwhole).1 (by omega)
      have hroot : page.root.head.id ≠ id := by
        intro hid
        rw [whole_eq, Forest.parentOf?, if_pos hid] at hwhole
        simp at hwhole
      rw [← whole_modify, whole_eq, whole_eq, Forest.without, if_neg hroot] at hout
      obtain ⟨hhead, hchildren, hloose⟩ := Forest.element.inj hout
      refine ⟨element, (page.modify parent (Forest.eraseChild id)).loose,
        (element?_eq_find? page id) ▸ he, ?_, ?_⟩
      · have hadopted : (if (page.adopted.lookup id).isSome then (id, none) :: page.adopted
            else page.adopted) = page.adopted := by
          rw [ht.not_adopted]
          rfl
        rw [← hchildren, ← hhead]
        simp only [remove, hp, he]
        exact congrArg (Page.mk _ _ · _) hadopted
      · rw [whole_eq, Forest.without, if_neg hroot, hloose]

/-- A removal takes the element out of the document. -/
theorem root_remove (ht : page.IsTree) (id : Nat) :
    (page.remove id).root = ⟨page.root.head, page.root.children.without id⟩ := by
  rcases remove_cases ht id with ⟨hsame, hid⟩ | ⟨element, loose, -, hremove, -⟩
  · rw [hsame, Forest.without_of_not_mem _ hid]
  · rw [hremove]

/-- No head is lost when an element is removed. -/
theorem heads_remove_perm (ht : page.IsTree) (id : Nat) :
    (page.remove id).whole.heads.Perm page.whole.heads := by
  rcases remove_cases ht id with ⟨hsame, -⟩ | ⟨element, loose, hfind, hremove, hwithout⟩
  · rw [hsame]
  · have hperm := Forest.heads_without_perm page.whole ht.ids_nodup hfind
    rw [hwithout, Forest.heads, List.cons_append, List.append_assoc] at hperm
    refine List.Perm.trans ?_ hperm
    rw [hremove, whole_eq, Forest.ofElements, Forest.heads, Forest.heads]
    have hmove : ((element.head :: element.children.heads) ++
        (Forest.ofElements loose).heads).Perm ((Forest.ofElements loose).heads ++
          (element.head :: element.children.heads)) := List.perm_append_comm
    exact (hmove.append_left _).cons _

theorem isTree_remove (ht : page.IsTree) (id : Nat) : (page.remove id).IsTree := by
  refine ⟨((heads_remove_perm ht id).map Head.id).nodup_iff.2 ht.ids_nodup, ?_⟩
  rcases remove_cases ht id with ⟨hsame, -⟩ | ⟨element, loose, -, hremove, -⟩
  · rw [hsame, ht.not_adopted]
  · rw [hremove]
    exact ht.not_adopted

/-- Removing elements that may not have children leaves the others in the document, in order. -/
theorem inside_remove (ht : page.IsTree) (hv : page.root.children.VoidsEmpty) {id : Nat}
    (hid : ∀ head ∈ page.inside, head.id = id → head.isVoid = true) :
    (page.remove id).inside = page.inside.filter fun head => head.id ≠ id := by
  rw [inside, inside, root_remove ht]
  refine Forest.heads_without_of_childless page.root.children fun e hmem he => ?_
  rw [hv e hmem (hid e.head (Forest.head_mem_heads hmem) he), Forest.heads]

theorem voidsEmpty_remove (ht : page.IsTree) (hv : page.root.children.VoidsEmpty) (id : Nat) :
    (page.remove id).root.children.VoidsEmpty := by
  rw [root_remove ht]
  intro e hmem hvoid
  obtain ⟨before, hbefore, hhead, hchildren⟩ :=
    Forest.mem_elements_without page.root.children hmem
  rw [hchildren, hv before hbefore (hhead ▸ hvoid), Forest.without]

/-! ## Changing heads -/

theorem heads_modify (page : Page) (id : Nat) (change : Head → Head) :
    (page.modify id fun e => { e with head := change e.head }).whole.heads =
      page.whole.heads.map fun head => if head.id = id then change head else head := by
  rw [whole_modify]
  exact Forest.heads_modify id change page.whole

/-- Changes leave a tree a tree, if they leave the numbers as they are. -/
theorem isTree_modify (ht : page.IsTree) (id : Nat) {change : Head → Head}
    (hid : ∀ head, (change head).id = head.id) :
    (page.modify id fun e => { e with head := change e.head }).IsTree := by
  refine ⟨?_, ht.not_adopted⟩
  have hsame : ∀ head : Head, (if head.id = id then change head else head).id = head.id := by
    intro head
    split
    · exact hid head
    · rfl
  rw [Forest.ids, heads_modify, List.map_map]
  exact (List.map_congr_left fun head _ => hsame head) ▸ ht.ids_nodup

theorem id_drop (head : Head) (name : String) : (head.drop name).id = head.id := by
  unfold Head.drop
  split <;> rfl

theorem heads_dropAttribute (page : Page) (id : Nat) (name : String) :
    (page.dropAttribute id name).whole.heads =
      page.whole.heads.map fun head => if head.id = id then head.drop name else head :=
  heads_modify page id fun head => head.drop name

theorem isTree_dropAttribute (ht : page.IsTree) (id : Nat) (name : String) :
    (page.dropAttribute id name).IsTree :=
  isTree_modify ht id fun head => id_drop head name

/-- An element without an attribute is left as it is when the attribute is dropped. -/
theorem dropAttribute_of_not_has (ht : page.IsTree) {head : Head} (hmem : head ∈ page.whole.heads)
    {name : String} (h : head.has name = false) : page.dropAttribute head.id name = page := by
  have hsame : ∀ other ∈ page.whole.heads, other.id = head.id → other.drop name = other := by
    intro other ho hid
    rw [List.inj_on_of_nodup_map ht.ids_nodup ho hmem hid, Head.drop, h]
    rfl
  have hwhole : (page.dropAttribute head.id name).whole = page.whole := by
    rw [dropAttribute, whole_modify]
    exact Forest.modify_eq_self page.whole hsame
  obtain ⟨hroot, hloose⟩ := List.cons.inj (Forest.ofElements_inj hwhole)
  exact congrArg₂ (fun root loose => { page with root, loose }) hroot hloose

/-! ## Searching the document -/

/-- An element of the document is found by its number. -/
theorem element?_of_mem (ht : page.IsTree) {e : Element} (hmem : e ∈ page.root.children.elements) :
    page.element? e.head.id = some e := by
  have hwhole : e ∈ page.whole.elements := List.mem_cons_of_mem _ (List.mem_append_left _ hmem)
  rw [element?_eq_find?]
  cases hfind : page.whole.find? e.head.id with
  | none =>
    have hid := Forest.mem_ids.2 ⟨e.head, Forest.head_mem_heads hwhole, rfl⟩
    exact absurd hid (Forest.find?_eq_none _ hfind)
  | some other =>
    obtain ⟨hother, hid⟩ := Forest.find?_eq_some _ hfind
    exact congrArg some (Forest.eq_of_mem_elements ht.ids_nodup hother hwhole hid)

theorem descendants_root (ht : page.IsTree) :
    page.root.descendants = page.root.children.elements := by
  refine List.filter_eq_self.2 fun e hmem => ?_
  have hid : e.head.id ∈ page.root.children.ids :=
    Forest.mem_ids.2 ⟨e.head, Forest.head_mem_heads hmem, rfl⟩
  have hne : e.head.id ≠ page.root.head.id := fun he => (nodup_inside ht).1 (he ▸ hid)
  simpa using hne

/-- The heads of the elements with a tag, in document order. -/
theorem heads_withTag (ht : page.IsTree) (tag : String) :
    (page.root.withTag tag).map Element.head =
      page.inside.filter fun head => head.tag = Text.lower tag := by
  rw [Element.withTag, descendants_root ht, inside, ← Forest.map_head_elements, List.filter_map]
  rfl

/-! ## Pages that were read -/

/-- A page that was just read is a tree, and elements that may not have children have none. -/
theorem isTree_ofMarkup {text : String} (h : ofMarkup text = .ok page) :
    page.IsTree ∧ page.root.children.VoidsEmpty := by
  obtain ⟨document, hparse, rfl⟩ := map_eq_ok h
  obtain ⟨hhead, ⟨count, hids⟩, hv⟩ := numbered_of_parse hparse
  have hnodup : (0 :: List.range' 1 count).Nodup := by
    refine List.nodup_cons.2 ⟨fun hmem => ?_, List.nodup_range'⟩
    have := List.mem_range'_1.1 hmem
    omega
  refine ⟨⟨?_, rfl⟩, hv⟩
  rw [whole_eq, ofDocument, Forest.ids_element, hids, hhead, Forest.ofElements, Forest.ids_nil,
    List.append_nil]
  exact hnodup

end Page

end PageCompiler
