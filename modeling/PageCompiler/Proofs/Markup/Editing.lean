import PageCompiler.Proofs.Markup.Removal
import PageCompiler.Text.Blank

/-!
# Editing a forest

`edit` goes through a forest once and gives every element another head or drops it with everything
in it; leaves and the order of the nodes stay. Taking out an element by its number and changing its
head are edits (`without_eq_edit`, `modify_eq_edit`), and made after another edit they only change
what that one does with the element (`edit_edit`). So a run of such steps, one element at a time,
comes to a single edit of the forest as it was at the start.
-/

namespace PageCompiler.Markup.Forest

/-- The forest with new heads, and without the elements for which there is none. -/
def edit (become : Element → Option Head) : Forest → Forest
  | nil => nil
  | leaf l next => leaf l (next.edit become)
  | element head children next =>
    match become ⟨head, children⟩ with
    | some changed => element changed (children.edit become) (next.edit become)
    | none => next.edit become

variable {become become' : Element → Option Head} {id : Nat}

/-! ## Elements -/

theorem forall_elements_element {P : Element → Prop} {head : Head} {children next : Forest} :
    (∀ e ∈ (element head children next).elements, P e) ↔
      P ⟨head, children⟩ ∧ (∀ e ∈ children.elements, P e) ∧ ∀ e ∈ next.elements, P e := by
  rw [elements, List.forall_mem_cons, List.forall_mem_append]

/-- The elements inside an element of a forest are elements of the forest. -/
theorem elements_subset {e : Element} : ∀ forest : Forest, e ∈ forest.elements →
    e.children.elements ⊆ forest.elements
  | leaf _ next, h => elements_subset next h
  | element head children next, h => by
    intro inner hinner
    rcases List.mem_cons.1 h with rfl | h
    · exact List.mem_cons_of_mem _ (List.mem_append_left _ hinner)
    · rcases List.mem_append.1 h with h | h
      · exact List.mem_cons_of_mem _ (List.mem_append_left _ (elements_subset children h hinner))
      · exact List.mem_cons_of_mem _ (List.mem_append_right _ (elements_subset next h hinner))

theorem mem_elements_edit {found : Element} : ∀ forest : Forest,
    found ∈ (forest.edit become).elements →
      ∃ e ∈ forest.elements, become e = some found.head ∧
        found.children = e.children.edit become
  | leaf _ next, h => mem_elements_edit next h
  | element head children next, h => by
    have hinto : ∀ {e : Element}, e ∈ next.elements → e ∈ (element head children next).elements :=
      fun hm => List.mem_cons_of_mem _ (List.mem_append_right _ hm)
    rw [edit] at h
    split at h
    · next changed hbecome =>
      rcases List.mem_cons.1 h with rfl | h
      · exact ⟨⟨head, children⟩, List.mem_cons_self, hbecome, rfl⟩
      · rcases List.mem_append.1 h with h | h
        · obtain ⟨e, hm, he⟩ := mem_elements_edit children h
          exact ⟨e, List.mem_cons_of_mem _ (List.mem_append_left _ hm), he⟩
        · obtain ⟨e, hm, he⟩ := mem_elements_edit next h
          exact ⟨e, hinto hm, he⟩
    · obtain ⟨e, hm, he⟩ := mem_elements_edit next h
      exact ⟨e, hinto hm, he⟩

/-! ## Edits that agree -/

/-- An edit depends only on what it makes of the elements that are there. -/
theorem edit_congr : ∀ forest : Forest, (∀ e ∈ forest.elements, become e = become' e) →
    forest.edit become = forest.edit become'
  | nil, _ => rfl
  | leaf _ next, h => by rw [edit, edit, edit_congr next h]
  | element head children next, h => by
    obtain ⟨hhead, hchildren, hnext⟩ := forall_elements_element.1 h
    rw [edit, edit, hhead, edit_congr children hchildren, edit_congr next hnext]

/-- An edit that keeps every head leaves the forest as it is. -/
theorem edit_head : ∀ forest : Forest, (forest.edit fun e => some e.head) = forest
  | nil => rfl
  | leaf _ next => by rw [edit, edit_head next]
  | element _ children next => by rw [edit, edit_head children, edit_head next]

theorem edit_of_elements_eq_nil {forest : Forest} (h : forest.elements = []) :
    forest.edit become = forest := by
  refine (edit_congr forest fun e he => ?_).trans (edit_head forest)
  rw [h] at he
  cases he

/-- Where only elements that hold no others are dropped, the rest keeps its order. -/
theorem heads_edit : ∀ forest : Forest,
    (∀ e ∈ forest.elements, become e = none → e.children.elements = []) →
      (forest.edit become).heads = forest.elements.filterMap become
  | nil, _ => rfl
  | leaf _ next, h => heads_edit next h
  | element head children next, h => by
    obtain ⟨hhead, hchildren, hnext⟩ := forall_elements_element.1 h
    rw [edit, elements]
    cases hbecome : become ⟨head, children⟩ with
    | none =>
      have hnone : children.elements = [] := hhead hbecome
      rw [List.filterMap_cons_none hbecome, hnone, List.nil_append]
      exact heads_edit next hnext
    | some changed =>
      rw [List.filterMap_cons_some hbecome, List.filterMap_append, ← heads_edit children hchildren,
        ← heads_edit next hnext]
      rfl

/-- Nothing more is made of an element that is not in the edited forest any more. -/
theorem edit_eq_of_not_mem : ∀ forest : Forest, id ∉ (forest.edit become).ids →
    (∀ e ∈ forest.elements, e.head.id = id → become e = some e.head) →
    (∀ e ∈ forest.elements, e.head.id ≠ id → become' e = become e) →
      forest.edit become' = forest.edit become
  | nil, _, _, _ => rfl
  | leaf _ next, hgone, hkept, hsame => by
    rw [edit, edit, edit_eq_of_not_mem next hgone hkept hsame]
  | element head children next, hgone, hkept, hsame => by
    obtain ⟨hhead, hinner, hnext⟩ := forall_elements_element.1 hkept
    obtain ⟨hhead', hinner', hnext'⟩ := forall_elements_element.1 hsame
    rw [edit] at hgone ⊢
    rw [edit]
    by_cases hid : head.id = id
    · rw [hhead hid, ids_element] at hgone
      exact absurd (hid ▸ List.mem_cons_self) hgone
    · rw [hhead' hid]
      cases hbecome : become ⟨head, children⟩ with
      | none =>
        rw [hbecome] at hgone
        exact edit_eq_of_not_mem next hgone hnext hnext'
      | some changed =>
        rw [hbecome] at hgone
        simp only [ids_element, List.mem_cons, List.mem_append, not_or] at hgone
        simp only [edit_eq_of_not_mem children hgone.2.1 hinner hinner',
          edit_eq_of_not_mem next hgone.2.2 hnext hnext']

/-! ## One more step -/

/-- Make something of the head with a number, and leave all others. -/
def atNumber (id : Nat) (after : Head → Option Head) (e : Element) : Option Head :=
  if e.head.id = id then after e.head else some e.head

theorem without_eq_edit (id : Nat) : ∀ forest : Forest,
    forest.without id = forest.edit (atNumber id fun _ => none)
  | nil => rfl
  | leaf _ next => by rw [without, edit, without_eq_edit id next]
  | element head children next => by
    by_cases hid : head.id = id
    · simp [without, edit, atNumber, hid, without_eq_edit id next]
    · simp [without, edit, atNumber, hid, without_eq_edit id next, without_eq_edit id children]

theorem modify_eq_edit (id : Nat) (change : Head → Head) : ∀ forest : Forest,
    (forest.modify id fun e => { e with head := change e.head }) =
      forest.edit (atNumber id fun head => some (change head))
  | nil => rfl
  | leaf _ next => by rw [modify, edit, modify_eq_edit id change next]
  | element head children next => by
    by_cases hid : head.id = id <;>
      simp [modify, edit, atNumber, hid, modify_eq_edit id change next,
        modify_eq_edit id change children]

theorem edit_atNumber_some (id : Nat) (forest : Forest) :
    forest.edit (atNumber id some) = forest := by
  refine (edit_congr forest fun e _ => ?_).trans (edit_head forest)
  rw [atNumber, ite_self]

theorem edit_atNumber_of_not_mem {after : Head → Option Head} {forest : Forest}
    (hid : id ∉ forest.ids) : forest.edit (atNumber id after) = forest := by
  refine (edit_congr forest fun e he => ?_).trans (edit_head forest)
  exact if_neg fun h => hid (mem_ids.2 ⟨e.head, head_mem_heads he, h⟩)

/-- One element of an edited forest becomes something else. -/
theorem edit_edit (id : Nat) (after : Head → Option Head) (become : Element → Option Head) :
    ∀ forest : Forest, (forest.edit become).edit (atNumber id after) =
      forest.edit fun e => (become e).bind fun head =>
        if head.id = id then after head else some head
  | nil => rfl
  | leaf _ next => by rw [edit, edit, edit, edit_edit id after become next]
  | element head children next => by
    rw [edit, edit]
    cases become ⟨head, children⟩ with
    | none => exact edit_edit id after become next
    | some changed =>
      simp only [edit, atNumber, Option.bind_some]
      split <;> simp only [edit_edit id after become]

/-! ## Text -/

theorem isBlankText_append (first second : String) :
    Text.isBlankText (first ++ second) = (Text.isBlankText first && Text.isBlankText second) := by
  simp [Text.isBlankText]

/-- Where only elements of blank text are dropped, the text is as blank as it was. -/
theorem isBlankText_edit : ∀ forest : Forest,
    (∀ e ∈ forest.elements, become e = none → Text.isBlankText e.children.text = true) →
      Text.isBlankText (forest.edit become).text = Text.isBlankText forest.text
  | nil, _ => rfl
  | leaf _ next, h => by
    rw [edit, text, text, isBlankText_append, isBlankText_append, isBlankText_edit next h]
  | element head children next, h => by
    obtain ⟨hhead, hchildren, hnext⟩ := forall_elements_element.1 h
    rw [edit, text, isBlankText_append]
    cases hbecome : become ⟨head, children⟩ with
    | none =>
      have hblank : Text.isBlankText children.text = true := hhead hbecome
      simp only [hblank, Bool.true_and, isBlankText_edit next hnext]
    | some changed =>
      simp only [text, isBlankText_append, isBlankText_edit children hchildren,
        isBlankText_edit next hnext]

end PageCompiler.Markup.Forest
