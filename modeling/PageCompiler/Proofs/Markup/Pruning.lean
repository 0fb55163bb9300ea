import PageCompiler.Proofs.Markup.Editing
import PageCompiler.Proofs.Page

/-!
# Removing elements

Each removal works on what those before it have left : the element may have been removed already, or
stand in one that was. The document shows nothing of this. A removal prunes it by one number and
prunings add up (`pruned_pruned`), so any removals come to one pruning by their numbers, whatever
their order (`root_removeAll`).

What pruning leaves is told node by node (`standings_pruned`). A node goes when it is pruned or an
element around it is. Every other stays as it is, in its place, with the same elements around it.
-/

namespace PageCompiler

open Markup

/-! ## Pruning -/

namespace Markup

/-- A node without what is in it. -/
inductive Item
  | leaf (leaf : Leaf)
  | element (head : Head)
  deriving Repr, DecidableEq

/-- A node without what is in it, and the elements around it, innermost first. -/
structure Standing where
  item : Item
  around : List Head
  deriving Repr, DecidableEq

/-- The elements that take the node along : those around it, and the node if it is one. -/
def Standing.holders (standing : Standing) : List Head :=
  match standing.item with
  | .leaf _ => standing.around
  | .element head => head :: standing.around

namespace Forest

/-- The nodes as they stand, in document order. -/
def standings (around : List Head) : Forest → List Standing
  | nil => []
  | leaf l next => ⟨.leaf l, around⟩ :: next.standings around
  | element head children next =>
    ⟨.element head, around⟩ :: (children.standings (head :: around) ++ next.standings around)

/-- The forest without the elements that go, and without everything in those. -/
def pruned (goes : Head → Bool) (forest : Forest) : Forest :=
  forest.edit fun e => if goes e.head then none else some e.head

variable {goes goes' : Head → Bool}

theorem pruned_element (goes : Head → Bool) (head : Head) (children next : Forest) :
    (element head children next).pruned goes =
      if goes head then next.pruned goes
      else element head (children.pruned goes) (next.pruned goes) := by
  rw [pruned, edit]
  by_cases hgoes : goes head
  · simp only [hgoes, if_true]
    rfl
  · simp only [hgoes]
    rfl

theorem pruned_congr {forest : Forest} (h : ∀ head ∈ forest.heads, goes head = goes' head) :
    forest.pruned goes = forest.pruned goes' :=
  edit_congr forest fun e he => by rw [h e.head (head_mem_heads he)]

theorem pruned_of_none (forest : Forest) : (forest.pruned fun _ => false) = forest :=
  edit_head forest

theorem without_eq_pruned (id : Nat) (forest : Forest) :
    forest.without id = forest.pruned fun head => head.id == id := by
  rw [without_eq_edit]
  refine edit_congr forest fun e _ => ?_
  simp only [atNumber, beq_iff_eq]

/-- Pruned twice, a forest is without what goes at one time or the other. -/
theorem pruned_pruned (goes goes' : Head → Bool) : ∀ forest : Forest,
    (forest.pruned goes).pruned goes' = forest.pruned fun head => goes head || goes' head
  | nil => rfl
  | leaf l next => congrArg (leaf l) (pruned_pruned goes goes' next)
  | element head children next => by
    have hchildren := pruned_pruned goes goes' children
    have hnext := pruned_pruned goes goes' next
    rw [pruned_element, pruned_element]
    cases hgoes : goes head with
    | true => exact hnext
    | false =>
      simp only [Bool.false_or, Bool.false_eq_true, if_false, pruned_element, hchildren, hnext]

/-- Nothing that goes is left. -/
theorem not_goes_of_mem_pruned (goes : Head → Bool) {e : Element} {forest : Forest}
    (h : e ∈ (forest.pruned goes).elements) : goes e.head = false := by
  obtain ⟨before, -, hkept, -⟩ := mem_elements_edit forest h
  cases hgoes : goes before.head with
  | true =>
    rw [if_pos hgoes] at hkept
    cases hkept
  | false =>
    rw [if_neg (Bool.eq_false_iff.1 hgoes)] at hkept
    rw [← Option.some.inj hkept, hgoes]

/-- A node goes along with every element around the forest. -/
theorem mem_holders_of_mem_around {standing : Standing} {head : Head} :
    ∀ (forest : Forest) {around : List Head}, standing ∈ forest.standings around →
      head ∈ around → head ∈ standing.holders
  | leaf _ next, around, h, hhead => by
    rcases List.mem_cons.1 h with rfl | h
    · exact hhead
    · exact mem_holders_of_mem_around next h hhead
  | element _ children next, around, h, hhead => by
    rcases List.mem_cons.1 h with rfl | h
    · exact List.mem_cons_of_mem _ hhead
    · rcases List.mem_append.1 h with h | h
      · exact mem_holders_of_mem_around children h (List.mem_cons_of_mem _ hhead)
      · exact mem_holders_of_mem_around next h hhead

theorem all_not_goes {holders : List Head} (h : ∀ head ∈ holders, goes head = false) :
    holders.all (!goes ·) = true :=
  List.all_eq_true.2 fun head hmem => by rw [h head hmem, Bool.not_false]

/-- The nodes that are left are those that go with no element, and they stand as before. -/
theorem standings_pruned : ∀ (forest : Forest) {around : List Head},
    (∀ head ∈ around, goes head = false) →
      (forest.pruned goes).standings around =
        (forest.standings around).filter fun standing => standing.holders.all (!goes ·)
  | nil, _, _ => rfl
  | leaf l next, around, h => by
    have hleaf : (Standing.holders ⟨.leaf l, around⟩).all (!goes ·) = true := all_not_goes h
    rw [standings, List.filter_cons, if_pos hleaf, ← standings_pruned next h]
    rfl
  | element head children next, around, h => by
    have hnext := standings_pruned next h
    rw [pruned_element, standings, List.filter_cons, List.filter_append, ← hnext]
    cases hgoes : goes head with
    | true =>
      have hgone : ∀ standing ∈ children.standings (head :: around),
          ¬standing.holders.all (!goes ·) = true := by
        intro standing hmem hall
        have hhead := mem_holders_of_mem_around children hmem List.mem_cons_self
        have hstays := List.all_eq_true.1 hall head hhead
        rw [hgoes] at hstays
        cases hstays
      have hself : (Standing.holders ⟨.element head, around⟩).all (!goes ·) = false := by
        rw [Standing.holders, List.all_cons, hgoes]
        rfl
      rw [hself, List.filter_eq_nil_iff.2 hgone]
      rfl
    | false =>
      have hall : ∀ other ∈ head :: around, goes other = false :=
        List.forall_mem_cons.2 ⟨hgoes, h⟩
      have hself : (Standing.holders ⟨.element head, around⟩).all (!goes ·) = true :=
        all_not_goes hall
      rw [hself, ← standings_pruned children hall]
      rfl

end Forest

end Markup

/-! ## Pages -/

namespace Page

variable {page : Page}

/-- Remove elements, one after the other. -/
def removeAll (page : Page) (ids : List Nat) : Page :=
  ids.foldl remove page

theorem isTree_removeAll (ht : page.IsTree) (ids : List Nat) : (page.removeAll ids).IsTree :=
  ids.foldlRecOn (motive := IsTree) remove ht fun _ hi id _ => isTree_remove hi id

/-- Removals prune the document by their numbers. -/
theorem root_removeAll : ∀ (ids : List Nat) {page : Page}, page.IsTree →
    (page.removeAll ids).root =
      ⟨page.root.head, page.root.children.pruned fun head => ids.contains head.id⟩
  | [], page, _ => congrArg (Element.mk _) (Forest.pruned_of_none page.root.children).symm
  | id :: ids, page, ht => by
    have hrest := root_removeAll ids (isTree_remove ht id)
    rw [root_remove ht, Forest.without_eq_pruned, Forest.pruned_pruned] at hrest
    simp only [List.contains_cons]
    exact hrest

/-- The numbers of the elements with a tag tell them from the others in the document. -/
theorem contains_eq_tag (ht : page.IsTree) {tag : String} {ids : List Nat}
    (hids : ∀ id, id ∈ ids ↔ id ∈ (page.root.withTag tag).map fun e => e.head.id) {head : Head}
    (hmem : head ∈ page.inside) : ids.contains head.id = decide (head.tag = Text.lower tag) := by
  have hfound : (page.root.withTag tag).map (fun e => e.head.id) =
      (page.inside.filter fun head => head.tag = Text.lower tag).map Head.id := by
    rw [← heads_withTag ht, List.map_map]
    rfl
  rw [Bool.eq_iff_iff, List.contains_iff_mem, decide_eq_true_iff, hids, hfound, List.mem_map]
  constructor
  · rintro ⟨other, hother, hid⟩
    obtain ⟨hin, htag⟩ := List.mem_filter.1 hother
    exact eq_of_mem_inside ht hin hmem hid ▸ of_decide_eq_true htag
  · exact fun htag => ⟨head, List.mem_filter.2 ⟨hmem, decide_eq_true htag⟩, rfl⟩

theorem root_removeAll_withTag (ht : page.IsTree) {tag : String} {ids : List Nat}
    (hids : ∀ id, id ∈ ids ↔ id ∈ (page.root.withTag tag).map fun e => e.head.id) :
    (page.removeAll ids).root =
      ⟨page.root.head, page.root.children.pruned fun head => head.tag = Text.lower tag⟩ := by
  rw [root_removeAll ids ht]
  exact congrArg (Element.mk _) (Forest.pruned_congr fun head => contains_eq_tag ht hids)

/-- Removing the elements of a page that have a tag, in any order and any number of times, leaves
the document without them and without everything in them. All other nodes stay as they are and where
they are, no element with the tag is left, and any other order gives the same document. -/
theorem document_of_removals {text : String} (h : ofMarkup text = .ok page) (tag : String)
    {ids : List Nat}
    (hids : ∀ id, id ∈ ids ↔ id ∈ (page.root.withTag tag).map fun e => e.head.id) :
    (page.removeAll ids).root =
        ⟨page.root.head, page.root.children.pruned fun head => head.tag = Text.lower tag⟩ ∧
      (page.removeAll ids).root.children.standings [] =
        (page.root.children.standings []).filter (fun standing =>
          standing.holders.all fun head => head.tag ≠ Text.lower tag) ∧
      (page.removeAll ids).root.withTag tag = [] ∧
      ∀ {other : List Nat}, (∀ id, id ∈ other ↔ id ∈ ids) →
        (page.removeAll other).root = (page.removeAll ids).root ∧
          (page.removeAll other).html = (page.removeAll ids).html := by
  have ht := (isTree_ofMarkup h).1
  have hroot := root_removeAll_withTag ht hids
  refine ⟨hroot, ?_, ?_, fun {other} hsame => ?_⟩
  · rw [hroot, Forest.standings_pruned _ fun _ hmem => absurd hmem List.not_mem_nil]
    simp only [decide_not, ne_eq]
  · rw [Element.withTag, descendants_root (isTree_removeAll ht ids), hroot]
    refine List.filter_eq_nil_iff.2 fun e hmem => Bool.eq_false_iff.1 ?_
    exact Forest.not_goes_of_mem_pruned (fun head => head.tag = Text.lower tag) hmem
  · have hboth : (page.removeAll other).root = (page.removeAll ids).root := by
      rw [hroot, root_removeAll_withTag ht fun id => (hsame id).trans (hids id)]
    exact ⟨hboth, congrArg Element.html hboth⟩

/-- A list item in another and one that closes itself. The inner item goes first and the outer one
twice, or each of them once from the front. -/
theorem document_of_removals_nested :
    ∃ page, ofMarkup "<ul><li>a<ul><li>b</ul></ul>c<LI/>" = .ok page ∧
      (page.root.withTag "LI").map (fun e => e.head.id) = [2, 4, 5] ∧
      (page.removeAll [4, 2, 5, 2]).html = "<ul></ul>c" ∧
      (page.removeAll [4, 2, 5, 2]).root.withTag "LI" = [] ∧
      (page.removeAll [2, 4, 5]).root = (page.removeAll [4, 2, 5, 2]).root := by
  have hrun : (ofMarkup "<ul><li>a<ul><li>b</ul></ul>c<LI/>").toOption.any fun page =>
      (page.root.withTag "LI").map (fun e => e.head.id) = [2, 4, 5] ∧
        (page.removeAll [4, 2, 5, 2]).html = "<ul></ul>c" := by
    decide +kernel
  obtain ⟨page, hread, hfound⟩ := exists_ok_of_any hrun
  obtain ⟨hitems, hhtml⟩ := of_decide_eq_true hfound
  have hsame : ∀ id, id ∈ [2, 4, 5] ↔ id ∈ [4, 2, 5, 2] := by
    intro id
    simp only [List.mem_cons, List.not_mem_nil, or_false]
    omega
  have hids : ∀ id, id ∈ [4, 2, 5, 2] ↔ id ∈ (page.root.withTag "LI").map fun e => e.head.id :=
    fun id => by rw [hitems, hsame]
  obtain ⟨-, -, hnone, horder⟩ := document_of_removals hread "LI" hids
  exact ⟨page, hread, hitems, hhtml, hnone, (horder hsame).1⟩

end Page

end PageCompiler
