import Mathlib.Data.List.Chain
import PageCompiler.Proofs.Markup.Editing
import PageCompiler.Proofs.Markup.Forest

/-!
# Child lists

`tops` is the child list of whoever owns a forest, and `nodes` lists the nodes at any depth. The
child lists of all owners together are all the nodes (`childLists_perm`) : a node stands in one
child list, and there once. Where the numbers are distinct, the owner of that list is the parent
that the search for one finds (`parentOf?_eq_some_iff`).

Texts are apart when no two of them stand side by side in a child list.
-/

namespace PageCompiler.Markup

/-- A node, with everything in it. -/
inductive Node
  | leaf (leaf : Leaf)
  | element (element : Element)
  deriving Repr, DecidableEq

/-- The node is text. -/
def Node.IsText : Node → Prop
  | .leaf (.text _) => True
  | _ => False

theorem Node.exists_of_isText_leaf {l : Leaf} (h : (Node.leaf l).IsText) :
    ∃ data, l = .text data := by
  cases l with
  | text data => exact ⟨data, rfl⟩
  | comment data => exact h.elim
  | markup spelling => exact h.elim

namespace Forest

/-- The topmost nodes, in order. -/
def tops : Forest → List Node
  | nil => []
  | leaf l next => .leaf l :: next.tops
  | element head children next => .element ⟨head, children⟩ :: next.tops

/-- The nodes at any depth, in document order. -/
def nodes : Forest → List Node
  | nil => []
  | leaf l next => .leaf l :: next.nodes
  | element head children next => .element ⟨head, children⟩ :: (children.nodes ++ next.nodes)

/-- No two of the topmost nodes that stand side by side are text. -/
def Apart (forest : Forest) : Prop :=
  forest.tops.IsChain fun before after => ¬(before.IsText ∧ after.IsText)

/-! ## Topmost nodes -/

theorem tops_append : ∀ first second : Forest,
    (first.append second).tops = first.tops ++ second.tops
  | nil, _ => rfl
  | leaf _ next, second => congrArg _ (tops_append next second)
  | element _ _ next, second => congrArg _ (tops_append next second)

theorem tops_reverse : ∀ forest : Forest, forest.reverse.tops = forest.tops.reverse
  | nil => rfl
  | leaf l next => by
    rw [reverse_leaf, tops_append, tops_reverse next]
    exact List.reverse_cons.symm
  | element head children next => by
    rw [reverse_element, tops_append, tops_reverse next]
    exact List.reverse_cons.symm

theorem apart_reverse {forest : Forest} : forest.reverse.Apart ↔ forest.Apart := by
  rw [Apart, Apart, tops_reverse, List.isChain_reverse]
  simp only [and_comm]

theorem exists_of_isText_head? {forest : Forest} {node : Node} (hnode : node ∈ forest.tops.head?)
    (htext : node.IsText) : ∃ data next, forest = leaf (.text data) next := by
  cases forest with
  | nil => cases hnode
  | leaf l next =>
    cases hnode
    obtain ⟨data, rfl⟩ := Node.exists_of_isText_leaf htext
    exact ⟨data, next, rfl⟩
  | element head children next =>
    cases hnode
    exact htext.elim

theorem mem_elements_of_mem_tops {e : Element} :
    ∀ (forest : Forest), .element e ∈ forest.tops → e ∈ forest.elements
  | leaf _ next, h => by
    rcases List.mem_cons.1 h with h | h
    · cases h
    · exact mem_elements_of_mem_tops next h
  | element head children next, h => by
    rcases List.mem_cons.1 h with h | h
    · cases h
      exact List.mem_cons_self
    · exact List.mem_cons_of_mem _ (List.mem_append_right _ (mem_elements_of_mem_tops _ h))

/-! ## Nodes -/

theorem element_mem_nodes {e : Element} :
    ∀ forest : Forest, e ∈ forest.elements → .element e ∈ forest.nodes
  | leaf _ next, h => List.mem_cons_of_mem _ (element_mem_nodes next h)
  | element head children next, h => by
    rcases List.mem_cons.1 h with rfl | h
    · exact List.mem_cons_self
    · refine List.mem_cons_of_mem _ (List.mem_append.2 ?_)
      exact (List.mem_append.1 h).imp (element_mem_nodes children) (element_mem_nodes next)

/-- The topmost nodes and the child lists of the elements are the nodes. -/
theorem childLists_perm : ∀ forest : Forest,
    (forest.tops ++ forest.elements.flatMap fun e => e.children.tops).Perm forest.nodes
  | nil => .nil
  | leaf l next => (childLists_perm next).cons _
  | element head children next => by
    have hboth := (childLists_perm children).append (childLists_perm next)
    rw [tops, elements, nodes, List.flatMap_cons, List.flatMap_append, List.cons_append]
    refine List.Perm.cons _ (.trans ?_ hboth)
    rw [← List.append_assoc children.tops]
    exact List.perm_append_comm_assoc _ _ _

/-! ## Parents -/

theorem parentOf?_of_not_mem {id owner : Nat} {forest : Forest} (h : id ∉ forest.ids) :
    forest.parentOf? id owner = none := by
  cases hp : forest.parentOf? id owner with
  | none => rfl
  | some parent => exact absurd (parentOf?_eq_some forest hp).2 h

theorem id_mem_ids {e : Element} {forest : Forest} (h : e ∈ forest.elements) :
    e.head.id ∈ forest.ids :=
  List.mem_map_of_mem (head_mem_heads h)

/-- The parent of a topmost element is the owner of the forest. -/
theorem parentOf?_of_mem_tops {e : Element} {owner : Nat} :
    ∀ (forest : Forest), forest.ids.Nodup → .element e ∈ forest.tops →
      forest.parentOf? e.head.id owner = some owner
  | leaf _ next, hn, h => by
    rcases List.mem_cons.1 h with h | h
    · cases h
    · exact parentOf?_of_mem_tops next hn h
  | element head children next, hn, h => by
    rcases List.mem_cons.1 h with h | h
    · cases h
      rw [parentOf?, if_pos rfl]
    · obtain ⟨⟨-, hhead⟩, -, hnext, hapart⟩ := nodup_element hn
      have hid := id_mem_ids (mem_elements_of_mem_tops _ h)
      rw [parentOf?, if_neg fun he : head.id = e.head.id => hhead (he ▸ hid),
        parentOf?_of_not_mem fun hc => hapart _ hc hid]
      exact parentOf?_of_mem_tops next hnext h

/-- The parent of an element in a child list is the element that has the list. -/
theorem parentOf?_of_mem_children {e parent : Element} :
    ∀ (forest : Forest) {owner : Nat}, forest.ids.Nodup → parent ∈ forest.elements →
      .element e ∈ parent.children.tops →
        forest.parentOf? e.head.id owner = some parent.head.id ∧ e.head.id ∈ forest.ids
  | leaf _ next, _, hn, hp, h => parentOf?_of_mem_children next hn hp h
  | element head children next, owner, hn, hp, h => by
    obtain ⟨⟨hheadc, hheadn⟩, hchildren, hnext, hapart⟩ := nodup_element hn
    rw [parentOf?, ids_element]
    rcases List.mem_cons.1 hp with rfl | hp
    · have hid := id_mem_ids (mem_elements_of_mem_tops _ h)
      rw [if_neg fun he : head.id = e.head.id => hheadc (he ▸ hid),
        parentOf?_of_mem_tops children hchildren h]
      exact ⟨rfl, List.mem_cons_of_mem _ (List.mem_append_left _ hid)⟩
    · rcases List.mem_append.1 hp with hp | hp
      · obtain ⟨hfound, hid⟩ := parentOf?_of_mem_children children hchildren hp h
        rw [if_neg fun he : head.id = e.head.id => hheadc (he ▸ hid), hfound]
        exact ⟨rfl, List.mem_cons_of_mem _ (List.mem_append_left _ hid)⟩
      · obtain ⟨hfound, hid⟩ := parentOf?_of_mem_children next hnext hp h
        rw [if_neg fun he : head.id = e.head.id => hheadn (he ▸ hid),
          parentOf?_of_not_mem fun hc => hapart _ hc hid]
        exact ⟨hfound, List.mem_cons_of_mem _ (List.mem_append_right _ hid)⟩

end Forest

/-! ## Documents -/

namespace Element

variable {document : Element}

/-- The child lists of an element and of all in it are the nodes in it. -/
theorem childLists_perm (document : Element) :
    (document.elements.flatMap fun e => e.children.tops).Perm document.children.nodes :=
  document.children.childLists_perm

/-- The numbers of the element and of those in it, in document order. -/
theorem map_id_elements (document : Element) :
    document.elements.map (fun e => e.head.id) = document.head.id :: document.children.ids := by
  rw [elements, List.map_cons, Forest.ids, ← Forest.map_head_elements, List.map_map]
  rfl

/-- What stands in the child list of an element is in the document. -/
theorem mem_elements_of_mem_children {e parent : Element} (hp : parent ∈ document.elements)
    (h : .element e ∈ parent.children.tops) : e ∈ document.children.elements := by
  have he := Forest.mem_elements_of_mem_tops _ h
  rcases List.mem_cons.1 hp with rfl | hp
  · exact he
  · exact Forest.elements_subset _ hp he

theorem parentOf?_of_mem_children (hn : (document.elements.map fun e => e.head.id).Nodup)
    {e parent : Element} (hp : parent ∈ document.elements)
    (h : .element e ∈ parent.children.tops) :
    document.parentOf? e.head.id = some parent.head.id := by
  rw [map_id_elements] at hn
  have hinner := (List.nodup_cons.1 hn).2
  rcases List.mem_cons.1 hp with rfl | hp
  · exact Forest.parentOf?_of_mem_tops _ hinner h
  · exact (Forest.parentOf?_of_mem_children _ hinner hp h).1

/-- Where the numbers are distinct, the parent of an element is the one that has it in its child
list. -/
theorem parentOf?_eq_some_iff (hn : (document.elements.map fun e => e.head.id).Nodup)
    {e parent : Element} (hp : parent ∈ document.elements) (he : e ∈ document.children.elements) :
    document.parentOf? e.head.id = some parent.head.id ↔ .element e ∈ parent.children.tops := by
  refine ⟨fun h => ?_, parentOf?_of_mem_children hn hp⟩
  -- the element stands in some child list, and the numbers tell whose list that is
  have hmem := document.childLists_perm.mem_iff.2 (Forest.element_mem_nodes _ he)
  obtain ⟨holder, hholder, hin⟩ := List.mem_flatMap.1 hmem
  have hsame := parentOf?_of_mem_children hn hholder hin
  rw [h] at hsame
  obtain rfl := List.inj_on_of_nodup_map hn hp hholder (Option.some.inj hsame)
  exact hin

end Element

end PageCompiler.Markup
