import Mathlib.Data.List.Induction
import Mathlib.Data.List.Nodup
import PageCompiler.Proofs.Build.Operations

/-!
# Variables of an assembly

Whatever operations a build performs, in any order and as often as it likes, its assembly holds the
arguments of a component between making it available and registering it, in a variable that no other
component has (`variables_of_run`). The variables are numbered over all registering operations; a
declaration counts as it is when such an operation starts.

Each operation puts whole blocks at the end, so that what stands side by side stays so
(`Argues.append`), and only holding arguments takes a number (`Numbered`).
-/

namespace PageCompiler.Build

/-! ## Held arguments -/

/-- The variable that an action holds arguments in. -/
def heldName? : Action → Option String
  | .holdArguments held _ => some held
  | _ => none

/-- An action that neither holds arguments nor registers a component. -/
def IsPlain : Action → Prop
  | .holdArguments .. | .register .. => False
  | _ => True

theorem filterMap_heldName?_of_plain {actions : List Action}
    (h : ∀ action ∈ actions, IsPlain action) : actions.filterMap heldName? = [] := by
  refine List.filterMap_eq_nil_iff.2 fun action hmem => ?_
  have hplain := h action hmem
  cases action <;> first | rfl | exact absurd hplain id

/-- Numbers give different variables. -/
theorem variableName_injective : Function.Injective Assembly.variableName := fun m n h => by
  have hdigits : Nat.toDigits 10 m = Nat.toDigits 10 n := by
    simpa [Assembly.variableName, Nat.toString_eq_ofList_toDigits] using congrArg String.toList h
  simpa using congrArg (fun digits => Nat.ofDigitChars 10 digits 0) hdigits

/-- The variables of an assembly are numbered from zero, in the order in which they are filled. -/
def Assembly.Numbered (assembly : Assembly) : Prop :=
  assembly.actions.filterMap heldName? =
    (List.range assembly.nextVariable).map Assembly.variableName

/-- Arguments are held between making a visual component available and registering it, where the
action at a place is written on the ground of some facts : they are the attributes of its
declaration. Other components are registered without arguments. -/
structure Argues (wrote : Nat → Facts → Prop) (actions : List Action) : Prop where
  held : ∀ {i held entries}, actions[i]? = some (.holdArguments held entries) →
    ∃ place name declaration tag facts, i = place + 1 ∧
      actions[place]? = some (.use name) ∧
      actions[i + 1]? = some (.register name (some held) (some tag)) ∧
      wrote i facts ∧ (name, declaration) ∈ facts.components ∧ facts.isVisual name = true ∧
      entries = declaration.attributes ∧ entries ≠ []
  argued : ∀ {i name held tag}, actions[i]? = some (.register name (some held) tag) →
    ∃ place entries, i = place + 1 ∧ actions[place]? = some (.holdArguments held entries)
  bare : ∀ {i name tag}, actions[i]? = some (.register name none tag) →
    ∃ declaration facts, wrote i facts ∧ (name, declaration) ∈ facts.components ∧
      (facts.isVisual name = false ∨ declaration.attributes = [])

theorem getElem?_cons_eq_some {α : Type} {first a : α} {rest : List α} {i : Nat} :
    (first :: rest)[i]? = some a ↔ i = 0 ∧ first = a ∨ ∃ j, i = j + 1 ∧ rest[j]? = some a := by
  cases i <;> simp

namespace Argues

variable {wrote : Nat → Facts → Prop}

theorem mono {writes : Nat → Facts → Prop} {actions : List Action} (h : Argues wrote actions)
    (hw : ∀ {i facts}, wrote i facts → writes i facts) : Argues writes actions where
  held hi := by
    obtain ⟨place, name, declaration, tag, facts, hplace, huse, hregister, hwrote, hrest⟩ :=
      h.held hi
    exact ⟨place, name, declaration, tag, facts, hplace, huse, hregister, hw hwrote, hrest⟩
  argued := h.argued
  bare hi := by
    obtain ⟨declaration, facts, hwrote, hrest⟩ := h.bare hi
    exact ⟨declaration, facts, hw hwrote, hrest⟩

/-- What stands side by side among the first or among the last actions does so among all. -/
theorem append {first last : List Action} (h : Argues wrote first)
    (hl : Argues (fun i => wrote (first.length + i)) last) : Argues wrote (first ++ last) := by
  have hleft : ∀ {i action}, first[i]? = some action → (first ++ last)[i]? = some action :=
    fun {i action} hi => by
      rw [List.getElem?_append_left (List.getElem?_eq_some_iff.1 hi).1, hi]
  have hright : ∀ i, (first ++ last)[first.length + i]? = last[i]? := fun i => by
    rw [List.getElem?_append_right (Nat.le_add_right _ _), Nat.add_sub_cancel_left]
  have hcases : ∀ {i action}, (first ++ last)[i]? = some action →
      first[i]? = some action ∨ ∃ j, i = first.length + j ∧ last[j]? = some action := by
    intro i action hi
    rcases Nat.lt_or_ge i first.length with hlt | hge
    · exact .inl (List.getElem?_append_left hlt ▸ hi)
    · obtain ⟨j, rfl⟩ := Nat.exists_eq_add_of_le hge
      exact .inr ⟨j, rfl, hright j ▸ hi⟩
  refine ⟨fun hi => ?_, fun hi => ?_, fun hi => ?_⟩
  · rcases hcases hi with hi | ⟨j, rfl, hj⟩
    · obtain ⟨place, name, declaration, tag, facts, hplace, huse, hregister, hrest⟩ := h.held hi
      exact ⟨place, name, declaration, tag, facts, hplace, hleft huse, hleft hregister, hrest⟩
    · obtain ⟨place, name, declaration, tag, facts, rfl, huse, hregister, hrest⟩ := hl.held hj
      exact ⟨first.length + place, name, declaration, tag, facts, rfl, (hright place).trans huse,
        (hright _).trans hregister, hrest⟩
  · rcases hcases hi with hi | ⟨j, rfl, hj⟩
    · obtain ⟨place, entries, hplace, hheld⟩ := h.argued hi
      exact ⟨place, entries, hplace, hleft hheld⟩
    · obtain ⟨place, entries, rfl, hheld⟩ := hl.argued hj
      exact ⟨first.length + place, entries, rfl, (hright place).trans hheld⟩
  · rcases hcases hi with hi | ⟨j, rfl, hj⟩
    · exact h.bare hi
    · exact hl.bare hj

theorem of_plain {actions : List Action} (h : ∀ action ∈ actions, IsPlain action) :
    Argues wrote actions :=
  ⟨fun hi => absurd (List.mem_of_getElem? hi) (h _),
    fun hi => absurd (List.mem_of_getElem? hi) (h _),
    fun hi => absurd (List.mem_of_getElem? hi) (h _)⟩

/-- The block of a declared component. -/
theorem of_block {facts : Facts} {entry : String × Declaration} {block : List Action}
    (h : IsBlock facts entry block) (hmem : entry ∈ facts.components)
    (hw : ∀ i < block.length, wrote i facts) : Argues wrote block := by
  cases h with
  | @service name declaration kind =>
    refine ⟨fun hi => ?_, fun hi => ?_, fun hi => ?_⟩
    · simp [getElem?_cons_eq_some] at hi
    · simp [getElem?_cons_eq_some] at hi
    · obtain ⟨rfl, rfl, -⟩ := by simpa [getElem?_cons_eq_some] using hi
      exact ⟨declaration, facts, hw 1 (by simp), hmem, .inl kind⟩
  | @bare name declaration kind free =>
    refine ⟨fun hi => ?_, fun hi => ?_, fun hi => ?_⟩
    · simp [getElem?_cons_eq_some] at hi
    · simp [getElem?_cons_eq_some] at hi
    · obtain ⟨rfl, rfl, -⟩ := by simpa [getElem?_cons_eq_some] using hi
      exact ⟨declaration, facts, hw 1 (by simp), hmem, .inr free⟩
  | @configured name declaration kind given number =>
    refine ⟨fun hi => ?_, fun hi => ?_, fun hi => ?_⟩
    · obtain ⟨rfl, rfl, rfl⟩ := by simpa [getElem?_cons_eq_some] using hi
      exact ⟨0, name, declaration, _, facts, rfl, rfl, rfl, hw 1 (by simp), hmem, kind, rfl,
        given⟩
    · obtain ⟨rfl, rfl, rfl, -⟩ := by simpa [getElem?_cons_eq_some] using hi
      exact ⟨1, declaration.attributes, rfl, rfl⟩
    · simp [getElem?_cons_eq_some] at hi

theorem of_blocks {facts : Facts} : ∀ {entries : List (String × Declaration)}
    {blocks : List (List Action)} {wrote : Nat → Facts → Prop},
    List.Forall₂ (IsBlock facts) entries blocks → entries ⊆ facts.components →
      (∀ i < blocks.flatten.length, wrote i facts) → Argues wrote blocks.flatten
  | _, _, _, .nil, _, _ => of_plain fun _ hmem => absurd hmem List.not_mem_nil
  | _, _ :: _, _, .cons hblock hblocks, hmem, hw => by
    rw [List.flatten_cons, List.length_append] at hw
    rw [List.flatten_cons]
    refine (of_block hblock (hmem List.mem_cons_self) fun i hi => hw i (by omega)).append ?_
    exact of_blocks hblocks (fun _ hentry => hmem (List.mem_cons_of_mem _ hentry))
      fun i hi => hw _ (by omega)

end Argues

/-! ## Numbers -/

namespace Assembly

/-- Actions that hold no arguments take no number. -/
theorem Numbered.of_plain {assembly later : Assembly} {actions : List Action}
    (h : assembly.Numbered) (hactions : later.actions = assembly.actions ++ actions)
    (hnumber : later.nextVariable = assembly.nextVariable)
    (hheld : actions.filterMap heldName? = []) : later.Numbered := by
  rw [Numbered, hactions, List.filterMap_append, hheld, List.append_nil, hnumber]
  exact h

theorem Numbered.registerOne {state : Assembly × Facts} (h : state.1.Numbered)
    (entry : String × Declaration) : (registerOne state entry).1.Numbered := by
  unfold Assembly.registerOne
  dsimp only
  split
  · exact h.of_plain rfl rfl rfl
  · split
    · exact h.of_plain rfl rfl rfl
    · rw [Numbered, push, List.filterMap_append, h, List.range_succ, List.map_append]
      rfl

theorem Numbered.registerAll {assembly : Assembly} (h : assembly.Numbered) (facts : Facts) :
    (assembly.registerAll facts).1.Numbered :=
  facts.components.foldlRecOn (motive := fun state => state.1.Numbered) Assembly.registerOne h
    fun _ hs entry _ => hs.registerOne entry

end Assembly

/-! ## Runs -/

/-- An action came to a place while all components were registered on the ground of some facts : the
place was free before this operation, and taken after it. -/
def Session.Registers (registry : Component.Registry) (session : Session)
    (operations : List Operation) (place : Nat) (facts : Facts) : Prop :=
  ∃ earlier later, operations = earlier ++ .registerAll :: later ∧
    facts = (session.run registry earlier).facts ∧
    (session.run registry earlier).assembly.actions.length ≤ place ∧
    place < (session.run registry (earlier ++ [.registerAll])).assembly.actions.length

section

variable {registry : Component.Registry} {session : Session}

theorem run_append_singleton (operations : List Operation) (operation : Operation) :
    session.run registry (operations ++ [operation]) =
      (session.run registry operations).perform registry operation :=
  List.foldl_append

theorem plain_of_mem_embedding {page : Page} {facts : Facts} {action : Action}
    (h : action ∈ embedding page facts) : IsPlain action := by
  obtain ⟨-, rfl⟩ := mem_embedding.1 h
  trivial

theorem plain_of_mem_launch {facts : Facts} {action : Action}
    (h : action ∈ [launching facts] ++ starting facts) : IsPlain action := by
  rcases List.mem_append.1 h with h | h
  · rcases launching_cases facts with hl | hl <;> rw [List.mem_singleton.1 h, hl] <;> trivial
  · rw [eq_of_mem_starting h]
    trivial

/-- Any other operation adds plain actions at most. -/
theorem perform_of_ne (registry : Component.Registry) (session : Session)
    {operation : Operation} (h : operation ≠ .registerAll) :
    ∃ actions, (∀ action ∈ actions, IsPlain action) ∧
      (session.perform registry operation).assembly.actions = session.assembly.actions ++ actions ∧
      (session.perform registry operation).assembly.nextVariable =
        session.assembly.nextVariable := by
  have hnone : ∃ actions, (∀ action ∈ actions, IsPlain action) ∧
      session.assembly.actions = session.assembly.actions ++ actions ∧
      session.assembly.nextVariable = session.assembly.nextVariable :=
    ⟨[], fun _ hmem => absurd hmem List.not_mem_nil, (List.append_nil _).symm, rfl⟩
  cases operation with
  | registerAll => exact absurd rfl h
  | embedMarkup =>
    refine ⟨_, fun _ => plain_of_mem_embedding,
      (embedMarkup_settles session.page session.assembly session.facts).1, ?_⟩
    rw [Session.perform, Assembly.embedMarkup]
    split <;> rfl
  | wireLaunch =>
    refine ⟨_, fun _ => plain_of_mem_launch,
      (actions_wireLaunch session.assembly session.facts).trans (List.append_assoc _ _ _), ?_⟩
    rw [Session.perform, Assembly.wireLaunch]
    dsimp only
    split <;> rfl
  | _ => exact hnone

/-- What one operation keeps : numbers, and what was registered on the ground of which facts. -/
theorem argues_perform {operations : List Operation} (operation : Operation)
    (hnumbered : (session.run registry operations).assembly.Numbered)
    (hargues : Argues (session.Registers registry operations)
      (session.run registry operations).assembly.actions) :
    (session.run registry (operations ++ [operation])).assembly.Numbered ∧
      Argues (session.Registers registry (operations ++ [operation]))
        (session.run registry (operations ++ [operation])).assembly.actions := by
  have hkept : Argues (session.Registers registry (operations ++ [operation]))
      (session.run registry operations).assembly.actions :=
    hargues.mono fun ⟨earlier, later, hsplit, hrest⟩ =>
      ⟨earlier, later ++ [operation], by rw [hsplit, List.append_assoc]; rfl, hrest⟩
  by_cases hregister : operation = .registerAll
  · subst hregister
    obtain ⟨blocks, hblocks, hactions, -⟩ :=
      (session.run registry operations).assembly.registerAll_blocks
        (session.run registry operations).facts
    have hlength := congrArg List.length hactions
    rw [List.length_append] at hlength
    rw [run_append_singleton]
    refine ⟨hnumbered.registerAll _, hactions ▸ hkept.append ?_⟩
    refine .of_blocks hblocks (List.Subset.refl _) fun i hi =>
      ⟨operations, [], rfl, rfl, Nat.le_add_right _ i, ?_⟩
    rw [run_append_singleton]
    exact lt_of_lt_of_eq (Nat.add_lt_add_left hi _) hlength.symm
  · obtain ⟨actions, hplain, hactions, hnumber⟩ :=
      perform_of_ne registry (session.run registry operations) hregister
    rw [run_append_singleton, hactions]
    exact ⟨hnumbered.of_plain hactions hnumber (filterMap_heldName?_of_plain hplain),
      hkept.append (.of_plain hplain)⟩

end

/-- The variables of an assembly are numbered in the order in which they are filled, no two are the
same, and they hold arguments as `Argues` tells, whatever operations led to the assembly : the
declarations that count are those at the start of the operation that registered a component. -/
theorem variables_of_run (registry : Component.Registry) (page : Page) (facts : Facts)
    (operations : List Operation) :
    (Session.run registry ⟨page, facts, .empty⟩ operations).assembly.Numbered ∧
      ((Session.run registry ⟨page, facts, .empty⟩ operations).assembly.actions.filterMap
        heldName?).Nodup ∧
      Argues (Session.Registers registry ⟨page, facts, .empty⟩ operations)
        (Session.run registry ⟨page, facts, .empty⟩ operations).assembly.actions := by
  have hrun : (Session.run registry ⟨page, facts, .empty⟩ operations).assembly.Numbered ∧
      Argues (Session.Registers registry ⟨page, facts, .empty⟩ operations)
        (Session.run registry ⟨page, facts, .empty⟩ operations).assembly.actions := by
    induction operations using List.reverseRecOn with
    | nil => exact ⟨rfl, .of_plain fun _ hmem => absurd hmem List.not_mem_nil⟩
    | append_singleton operations operation ih => exact argues_perform operation ih.1 ih.2
  refine ⟨hrun.1, ?_, hrun.2⟩
  rw [hrun.1]
  exact List.nodup_range.map variableName_injective

/-- A component that is registered twice takes a new variable, for its new attributes. -/
example : ((Page.ofMarkup "").toOption.any fun page =>
    let session := (Session.start page .js []).run crateRegistry
      [.declare "a.Crate" [("x", "1")] "", .examine, .registerAll,
        .declare "a.Crate" [("y", "2")] "", .wireLaunch, .registerAll]
    session.assembly.actions ==
      [.use "a.Crate", .holdArguments "args0" [("x", "1")],
        .register "a.Crate" (some "args0") (some "Crate"), .launchOnLoad, .startInit,
        .use "a.Crate", .holdArguments "args1" [("y", "2")],
        .register "a.Crate" (some "args1") (some "Crate")]) = true := by
  decide +kernel

end PageCompiler.Build
