import PageCompiler.Proofs.Markup.OpenElements

/-!
# What a start tag ends

A start tag leaves the open elements as they are when none of them is one that it ends, or when a
boundary shields each of those that are (`endImplied_of_isClear`). `IsClear` says so of the tags of
the elements around it, and is decided from the inside outwards (`isClear_cons`), as the search goes
through them.
-/

namespace PageCompiler.Markup

/-- None of the tags around, innermost first, is one to be closed, unless a boundary is nearer. -/
def ImpliedEnd.IsClear (implied : ImpliedEnd) (around : List String) : Prop :=
  ∀ nearer tag farther, around = nearer ++ tag :: farther → tag ∈ implied.closes →
    ∃ shield ∈ nearer, shield ∈ implied.boundary

/-- A start tag with this tag ends none of the elements around it. -/
def EndsNothing (tag : String) (around : List String) : Prop :=
  ∀ implied, impliedEnd? tag = some implied → implied.IsClear around

namespace ImpliedEnd

variable {implied : ImpliedEnd} {tag : String} {around : List String}

theorem isClear_nil : implied.IsClear [] := by
  rintro nearer tag farther h -
  simp at h

theorem isClear_cons :
    implied.IsClear (tag :: around) ↔
      tag ∉ implied.closes ∧ (tag ∈ implied.boundary ∨ implied.IsClear around) := by
  constructor
  · intro h
    refine ⟨fun hc => ?_, Decidable.or_iff_not_imp_left.2 fun hb nearer other farther he hc => ?_⟩
    · obtain ⟨shield, hmem, -⟩ := h [] tag around rfl hc
      cases hmem
    · obtain ⟨shield, hmem, hshield⟩ := h (tag :: nearer) other farther (by simp [he]) hc
      rcases List.mem_cons.1 hmem with rfl | hmem
      · exact absurd hshield hb
      · exact ⟨shield, hmem, hshield⟩
  · rintro ⟨hc, hb⟩ nearer other farther he hother
    cases nearer with
    | nil => exact absurd ((List.cons.inj he).1 ▸ hother) hc
    | cons inner nearer =>
      obtain ⟨hinner, hrest⟩ := List.cons.inj he
      rcases hb with hb | hclear
      · exact ⟨inner, List.mem_cons_self, hinner ▸ hb⟩
      · obtain ⟨shield, hmem, hshield⟩ := hclear nearer other farther hrest hother
        exact ⟨shield, List.mem_cons_of_mem _ hmem, hshield⟩

instance decidableIsClear (implied : ImpliedEnd) : DecidablePred implied.IsClear
  | [] => .isTrue isClear_nil
  | _ :: around =>
    have := decidableIsClear implied around
    decidable_of_iff _ isClear_cons.symm

end ImpliedEnd

instance (tag : String) (around : List String) : Decidable (EndsNothing tag around) :=
  match h : impliedEnd? tag with
  | none => .isTrue (by simp [EndsNothing, h])
  | some implied => decidable_of_iff (implied.IsClear around) (by simp [EndsNothing, h])

/-- The search for what a start tag ends, where there is nothing to end, finds nothing. -/
theorem closeNearest?_of_isClear {implied : ImpliedEnd} {finish : Frame → Frame} :
    ∀ {frame : Frame} {outer : List Frame},
      implied.IsClear ((openHeads frame outer).map Head.tag) →
      closeNearest?
        (fun head =>
          if implied.closes.contains head.tag then .closes
          else if implied.boundary.contains head.tag then .stops
          else .passes) finish frame outer = none
  | _, [], _ => rfl
  | frame, below :: outer, h => by
    obtain ⟨hc, hb⟩ := ImpliedEnd.isClear_cons.1 h
    have hcloses : implied.closes.contains frame.head.tag = false := by simpa using hc
    unfold closeNearest?
    simp only [hcloses, Bool.false_eq_true, if_false]
    split
    · next heq => split at heq <;> cases heq
    · rfl
    · next heq =>
      have hboundary : frame.head.tag ∉ implied.boundary := by
        intro hmem
        simp [hmem] at heq
      refine closeNearest?_of_isClear ?_
      rw [openHeads_addElement]
      exact hb.resolve_left hboundary

theorem endImplied_of_endsNothing {building : Building} {tag : String}
    (h : EndsNothing tag (building.opened.map Head.tag)) : building.endImplied tag = building := by
  unfold Building.endImplied
  split
  · rfl
  · next implied heq =>
    rw [Building.closeNearest, closeNearest?_of_isClear (h implied heq)]

end PageCompiler.Markup
