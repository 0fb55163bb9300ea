import Mathlib.Data.List.Nodup
import PageCompiler.Markup.Forest

/-!
# Elements by number

`heads` lists the heads of a forest in document order and `ids` their numbers. Where the numbers are
distinct an element is found by its number (`find?_head_iff`). `without` drops the elements with a
number, wherever they stand.
-/

namespace PageCompiler.Markup.Forest

/-- The heads of the elements, in document order. -/
def heads : Forest → List Head
  | nil => []
  | leaf _ next => next.heads
  | element head children next => head :: (children.heads ++ next.heads)

/-- The numbers of the elements, in document order. -/
def ids (forest : Forest) : List Nat :=
  forest.heads.map Head.id

/-- Without the elements that have this number. -/
def without (id : Nat) : Forest → Forest
  | nil => nil
  | leaf l next => leaf l (next.without id)
  | element head children next =>
    if head.id = id then next.without id
    else element head (children.without id) (next.without id)

@[simp] theorem ids_nil : nil.ids = [] :=
  rfl

@[simp] theorem ids_leaf (l : Leaf) (next : Forest) : (leaf l next).ids = next.ids :=
  rfl

@[simp] theorem ids_element (head : Head) (children next : Forest) :
    (element head children next).ids = head.id :: (children.ids ++ next.ids) := by
  simp [ids, heads]

theorem map_head_elements : ∀ forest : Forest, forest.elements.map Element.head = forest.heads
  | nil => rfl
  | leaf _ next => map_head_elements next
  | element head children next => by
    rw [elements, List.map_cons, List.map_append, map_head_elements children,
      map_head_elements next, heads]

theorem elements_append : ∀ first second : Forest,
    (first.append second).elements = first.elements ++ second.elements
  | nil, _ => rfl
  | leaf _ next, second => elements_append next second
  | element head children next, second => by
    rw [append, elements, elements, elements_append next second, List.cons_append,
      List.append_assoc]

theorem head_mem_heads {forest : Forest} {e : Element} (h : e ∈ forest.elements) :
    e.head ∈ forest.heads :=
  map_head_elements forest ▸ List.mem_map_of_mem h

theorem mem_ids {id : Nat} {forest : Forest} :
    id ∈ forest.ids ↔ ∃ head ∈ forest.heads, head.id = id := by
  simp [ids]

theorem nodup_element {head : Head} {children next : Forest}
    (h : (element head children next).ids.Nodup) :
    (head.id ∉ children.ids ∧ head.id ∉ next.ids) ∧ children.ids.Nodup ∧ next.ids.Nodup ∧
      ∀ id ∈ children.ids, id ∉ next.ids := by
  simp only [ids_element, List.nodup_cons, List.mem_append, not_or] at h
  obtain ⟨hhead, hboth⟩ := h
  obtain ⟨hchildren, hnext, hapart⟩ := List.nodup_append.1 hboth
  exact ⟨hhead, hchildren, hnext, fun id hc hn => hapart id hc id hn rfl⟩

/-- Where numbers are distinct, elements are told apart by their numbers. -/
theorem eq_of_mem_elements {forest : Forest} (hn : forest.ids.Nodup) {e other : Element}
    (he : e ∈ forest.elements) (ho : other ∈ forest.elements) (hid : e.head.id = other.head.id) :
    e = other := by
  rw [ids, ← map_head_elements, List.map_map] at hn
  exact List.inj_on_of_nodup_map hn he ho hid

/-! ## Finding -/

theorem find?_eq_some {id : Nat} {found : Element} :
    ∀ forest : Forest, forest.find? id = some found →
      found ∈ forest.elements ∧ found.head.id = id
  | leaf _ next, h => find?_eq_some next h
  | element head children next, h => by
    rw [find?] at h
    split at h
    · next hid =>
      obtain rfl := Option.some.inj h
      exact ⟨List.mem_cons_self, hid⟩
    · cases hc : children.find? id with
      | some inner =>
        rw [hc] at h
        obtain rfl := Option.some.inj h
        obtain ⟨hmem, hid⟩ := find?_eq_some children hc
        exact ⟨List.mem_cons_of_mem _ (List.mem_append_left _ hmem), hid⟩
      | none =>
        rw [hc] at h
        obtain ⟨hmem, hid⟩ := find?_eq_some next h
        exact ⟨List.mem_cons_of_mem _ (List.mem_append_right _ hmem), hid⟩

theorem find?_eq_none {id : Nat} :
    ∀ forest : Forest, forest.find? id = none → id ∉ forest.ids
  | nil, _ => by simp
  | leaf _ next, h => find?_eq_none next h
  | element head children next, h => by
    rw [find?] at h
    split at h
    · cases h
    · next hid =>
      cases hc : children.find? id with
      | some inner =>
        rw [hc] at h
        cases h
      | none =>
        rw [hc] at h
        simp only [ids_element, List.mem_cons, List.mem_append, not_or]
        exact ⟨fun he => hid he.symm, find?_eq_none children hc, find?_eq_none next h⟩

/-- Where numbers are distinct, an element is found by its number. -/
theorem find?_head_iff {forest : Forest} (hn : forest.ids.Nodup) {id : Nat} {head : Head} :
    (forest.find? id).map Element.head = some head ↔ head ∈ forest.heads ∧ head.id = id := by
  have hfound : ∀ {found : Element}, forest.find? id = some found →
      found.head ∈ forest.heads ∧ found.head.id = id := by
    intro found h
    obtain ⟨hmem, hid⟩ := find?_eq_some forest h
    exact ⟨head_mem_heads hmem, hid⟩
  constructor
  · intro h
    obtain ⟨found, hf, rfl⟩ := Option.map_eq_some_iff.1 h
    exact hfound hf
  · rintro ⟨hmem, hid⟩
    cases hf : forest.find? id with
    | none => exact absurd (mem_ids.2 ⟨head, hmem, hid⟩) (find?_eq_none forest hf)
    | some found =>
      obtain ⟨hfm, hfid⟩ := hfound hf
      exact congrArg some (List.inj_on_of_nodup_map hn hfm hmem (hfid.trans hid.symm))

end PageCompiler.Markup.Forest
