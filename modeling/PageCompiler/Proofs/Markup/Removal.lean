import PageCompiler.Proofs.Markup.Elements

/-!
# Taking elements out

Erasing an element among the children of its parent takes it out of the forest (`modify_eraseNode`).
The proof follows the search for the parent : the numbers are distinct, so the change reaches only
the place where the search ends. What is left and what was taken out are all there was
(`heads_without_perm`), and without an element that holds no other the rest keeps its order
(`heads_without_of_childless`).
-/

namespace PageCompiler.Markup.Forest

/-- Erase a node among the children of an element. -/
def eraseChild (id : Nat) (owner : Element) : Element :=
  { owner with children := owner.children.eraseNode id }

/-! ## What does not change -/

theorem without_of_not_mem {id : Nat} : ∀ forest : Forest, id ∉ forest.ids →
    forest.without id = forest
  | nil, _ => rfl
  | leaf l next, h => by rw [without, without_of_not_mem next h]
  | element head children next, h => by
    simp only [ids_element, List.mem_cons, List.mem_append, not_or] at h
    obtain ⟨hid, hc, hn⟩ := h
    rw [without, if_neg (Ne.symm hid), without_of_not_mem children hc, without_of_not_mem next hn]

theorem modify_of_not_mem {id : Nat} {change : Element → Element} :
    ∀ forest : Forest, id ∉ forest.ids → forest.modify id change = forest
  | nil, _ => rfl
  | leaf l next, h => by rw [modify, modify_of_not_mem next h]
  | element head children next, h => by
    simp only [ids_element, List.mem_cons, List.mem_append, not_or] at h
    obtain ⟨hid, hc, hn⟩ := h
    rw [modify, if_neg (Ne.symm hid), modify_of_not_mem children hc, modify_of_not_mem next hn]

/-- The parent of an element is the owner of the forest or in it. -/
theorem parentOf?_eq_some {id parent : Nat} :
    ∀ (forest : Forest) {owner : Nat}, forest.parentOf? id owner = some parent →
      (parent = owner ∨ parent ∈ forest.ids) ∧ id ∈ forest.ids
  | leaf _ next, owner, h => parentOf?_eq_some next h
  | element head children next, owner, h => by
    rw [parentOf?] at h
    simp only [ids_element, List.mem_cons, List.mem_append]
    split at h
    · next hid =>
      obtain rfl := Option.some.inj h
      exact ⟨.inl rfl, .inl hid.symm⟩
    · cases hc : children.parentOf? id head.id with
      | some inner =>
        rw [hc] at h
        obtain rfl := Option.some.inj h
        obtain ⟨hp, hm⟩ := parentOf?_eq_some children hc
        exact ⟨.inr (hp.imp_right .inl), .inr (.inl hm)⟩
      | none =>
        rw [hc] at h
        obtain ⟨hp, hm⟩ := parentOf?_eq_some next h
        exact ⟨hp.imp_right fun hn => .inr (.inr hn), .inr (.inr hm)⟩

theorem parentOf?_eq_none {id : Nat} : ∀ (forest : Forest) {owner : Nat},
    forest.parentOf? id owner = none → id ∉ forest.ids
  | nil, _, _ => by simp
  | leaf _ next, _, h => parentOf?_eq_none next h
  | element head children next, _, h => by
    rw [parentOf?] at h
    split at h
    · cases h
    · next hid =>
      cases hc : children.parentOf? id head.id with
      | some inner =>
        rw [hc] at h
        cases h
      | none =>
        rw [hc] at h
        simp only [ids_element, List.mem_cons, List.mem_append, not_or]
        exact ⟨Ne.symm hid, parentOf?_eq_none children hc, parentOf?_eq_none next h⟩

/-! ## Erasing under the parent -/

/-- Erasing an element under its parent takes it out, be the parent inside the forest or the owner
of the forest. -/
theorem modify_eraseNode {id parent : Nat} :
    ∀ (forest : Forest) {owner : Nat}, forest.ids.Nodup →
      forest.parentOf? id owner = some parent →
      (parent ≠ owner → forest.modify parent (eraseChild id) = forest.without id) ∧
        (parent = owner → owner ∉ forest.ids → forest.eraseNode id = forest.without id)
  | leaf l next, owner, hn, h => by
    obtain ⟨hinner, howner⟩ := modify_eraseNode next hn h
    refine ⟨fun hne => ?_, fun he ho => ?_⟩
    · rw [modify, without, hinner hne]
    · rw [eraseNode, without, howner he ho]
  | element head children next, owner, hn, h => by
    obtain ⟨⟨hhc, hhn⟩, hnc, hnn, hapart⟩ := nodup_element hn
    rw [parentOf?] at h
    split at h
    · next hid =>
      obtain rfl := Option.some.inj h
      refine ⟨fun hne => absurd rfl hne, fun _ _ => ?_⟩
      rw [eraseNode, if_pos hid, without, if_pos hid, without_of_not_mem next (hid ▸ hhn)]
    · next hid =>
      rw [without, if_neg hid]
      cases hc : children.parentOf? id head.id with
      | some inner =>
        rw [hc] at h
        obtain rfl := Option.some.inj h
        obtain ⟨hp, hm⟩ := parentOf?_eq_some children hc
        obtain ⟨hinner, howner⟩ := modify_eraseNode children hnc hc
        have hpn : inner ∉ next.ids := hp.elim (fun he => he ▸ hhn) (hapart inner)
        rw [without_of_not_mem next (hapart id hm)]
        refine ⟨fun _ => ?_, fun he ho => ?_⟩
        · rw [modify, modify_of_not_mem next hpn]
          by_cases hph : head.id = inner
          · rw [if_pos hph, modify_of_not_mem children (hph ▸ hhc), eraseChild, howner hph.symm hhc]
          · rw [if_neg hph, hinner (Ne.symm hph)]
        · refine absurd ?_ ho
          simp only [ids_element, List.mem_cons, List.mem_append]
          exact he ▸ hp.imp_right .inl
      | none =>
        rw [hc] at h
        obtain ⟨hp, hm⟩ := parentOf?_eq_some next h
        obtain ⟨hinner, howner⟩ := modify_eraseNode next hnn h
        rw [without_of_not_mem children fun hmc => hapart id hmc hm]
        refine ⟨fun hne => ?_, fun he ho => ?_⟩
        · have hpn := hp.resolve_left hne
          have hph : head.id ≠ parent := fun he => hhn (he ▸ hpn)
          rw [modify, if_neg hph, modify_of_not_mem children fun hpc => hapart parent hpc hpn,
            hinner hne]
        · simp only [ids_element, List.mem_cons, List.mem_append, not_or] at ho
          rw [eraseNode, if_neg hid, howner he ho.2.2]

/-! ## What is left -/

/-- What is left and what was taken out are all there was. -/
theorem heads_without_perm {id : Nat} {found : Element} :
    ∀ forest : Forest, forest.ids.Nodup → forest.find? id = some found →
      ((forest.without id).heads ++ (found.head :: found.children.heads)).Perm forest.heads
  | leaf _ next, hn, h => heads_without_perm next hn h
  | element head children next, hn, h => by
    obtain ⟨⟨-, hhn⟩, hnc, hnn, hapart⟩ := nodup_element hn
    rw [find?] at h
    split at h
    · next hid =>
      obtain rfl := Option.some.inj h
      rw [without, if_pos hid, without_of_not_mem next (hid ▸ hhn), heads]
      exact List.perm_append_comm
    · next hid =>
      rw [without, if_neg hid, heads, heads]
      cases hc : children.find? id with
      | some inner =>
        rw [hc] at h
        obtain rfl := Option.some.inj h
        obtain ⟨hmem, rfl⟩ := find?_eq_some children hc
        have hmem : inner.head.id ∈ children.ids :=
          mem_ids.2 ⟨inner.head, head_mem_heads hmem, rfl⟩
        rw [without_of_not_mem next (hapart _ hmem)]
        have hmove : (next.heads ++ (inner.head :: inner.children.heads)).Perm
            ((inner.head :: inner.children.heads) ++ next.heads) := List.perm_append_comm
        have hinner := (heads_without_perm children hnc hc).append_right next.heads
        rw [List.append_assoc] at hinner
        rw [List.cons_append, List.append_assoc]
        exact ((hmove.append_left _).trans hinner).cons head
      | none =>
        rw [hc] at h
        have hmc := find?_eq_none children hc
        rw [without_of_not_mem children hmc]
        have hrest := heads_without_perm next hnn h
        rw [List.cons_append, List.append_assoc]
        exact (hrest.append_left children.heads).cons head

/-- Without elements that hold no others the rest keeps its order. -/
theorem heads_without_of_childless {id : Nat} :
    ∀ forest : Forest, (∀ e ∈ forest.elements, e.head.id = id → e.children.heads = []) →
      (forest.without id).heads = forest.heads.filter fun head => head.id ≠ id
  | nil, _ => rfl
  | leaf _ next, h => heads_without_of_childless next h
  | element head children next, h => by
    have hc := heads_without_of_childless children fun e he =>
      h e (List.mem_cons_of_mem _ (List.mem_append_left _ he))
    have hn := heads_without_of_childless next fun e he =>
      h e (List.mem_cons_of_mem _ (List.mem_append_right _ he))
    by_cases hid : head.id = id
    · have hnone : children.heads = [] := h ⟨head, children⟩ List.mem_cons_self hid
      simp [without, hid, heads, hnone, hn]
    · simp [without, hid, heads, hc, hn]

theorem mem_elements_without {id : Nat} {e : Element} :
    ∀ forest : Forest, e ∈ (forest.without id).elements →
      ∃ whole ∈ forest.elements, e.head = whole.head ∧ e.children = whole.children.without id
  | leaf _ next, h => mem_elements_without next h
  | element head children next, h => by
    rw [without] at h
    split at h
    · obtain ⟨whole, hm, he⟩ := mem_elements_without next h
      exact ⟨whole, List.mem_cons_of_mem _ (List.mem_append_right _ hm), he⟩
    · rcases List.mem_cons.1 h with rfl | h
      · exact ⟨⟨head, children⟩, List.mem_cons_self, rfl, rfl⟩
      · rcases List.mem_append.1 h with h | h
        · obtain ⟨whole, hm, he⟩ := mem_elements_without children h
          exact ⟨whole, List.mem_cons_of_mem _ (List.mem_append_left _ hm), he⟩
        · obtain ⟨whole, hm, he⟩ := mem_elements_without next h
          exact ⟨whole, List.mem_cons_of_mem _ (List.mem_append_right _ hm), he⟩

/-! ## Changing heads -/

/-- A change of a head is made wherever the number stands, and nowhere else. -/
theorem heads_modify (id : Nat) (change : Head → Head) : ∀ forest : Forest,
    (forest.modify id fun e => { e with head := change e.head }).heads =
      forest.heads.map fun head => if head.id = id then change head else head
  | nil => rfl
  | leaf _ next => heads_modify id change next
  | element head children next => by
    rw [modify]
    by_cases hid : head.id = id <;>
      simp [heads, hid, heads_modify id change children, heads_modify id change next]

/-- Nothing changes where the change leaves every head with the number as it is. -/
theorem modify_eq_self {id : Nat} {change : Head → Head} : ∀ forest : Forest,
    (∀ head ∈ forest.heads, head.id = id → change head = head) →
      (forest.modify id fun e => { e with head := change e.head }) = forest
  | nil, _ => rfl
  | leaf _ next, h => by rw [modify, modify_eq_self next h]
  | element head children next, h => by
    rw [heads, List.forall_mem_cons, List.forall_mem_append] at h
    obtain ⟨hhead, hchildren, hnext⟩ := h
    rw [modify, modify_eq_self children hchildren, modify_eq_self next hnext]
    by_cases hid : head.id = id
    · simp [hid, hhead hid]
    · simp [hid]

end PageCompiler.Markup.Forest
