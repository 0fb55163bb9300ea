import Mathlib.Data.List.Forall2
import PageCompiler.Build.Assembly
import PageCompiler.Proofs.Build.Facts

/-!
# What a program is made of

A program consists of a block of actions for every declared component, in their order, of the
embedded markup, and of the launch (`actions_assemble`). A block makes its component available,
holds the attributes of its declaration if they are needed, and registers it (`IsBlock`).

Registering a visual component settles its class tag, but this is the tag that it would have got
from the start. So every registration shows the tag that its component had before
(`register_mem_assemble`).
-/

namespace PageCompiler.Build

/-! ## Blocks -/

/-- The actions for a declared component : they make it available and register it, a visual one with
its class tag and with the attributes of its declaration, if there are any. -/
inductive IsBlock (facts : Facts) : String × Declaration → List Action → Prop
  | service {name : String} {declaration : Declaration} (kind : facts.isVisual name = false) :
      IsBlock facts (name, declaration) [.use name, .register name none none]
  | bare {name : String} {declaration : Declaration} (kind : facts.isVisual name = true)
      (free : declaration.attributes = []) :
      IsBlock facts (name, declaration)
        [.use name, .register name none (some (facts.classTag name).1)]
  | configured {name : String} {declaration : Declaration} (kind : facts.isVisual name = true)
      (given : declaration.attributes ≠ []) (number : Nat) :
      IsBlock facts (name, declaration)
        [.use name, .holdArguments (Assembly.variableName number) declaration.attributes,
          .register name (some (Assembly.variableName number)) (some (facts.classTag name).1)]

/-- Blocks depend on which components are visual and on their class tags only. -/
theorem IsBlock.congr {facts later : Facts} (hv : ∀ name, later.isVisual name = facts.isVisual name)
    (ht : ∀ name, (later.classTag name).1 = (facts.classTag name).1)
    {entry : String × Declaration} {block : List Action} (hb : IsBlock later entry block) :
    IsBlock facts entry block := by
  cases hb with
  | service kind => exact .service (hv _ ▸ kind)
  | bare kind free =>
    rw [ht]
    exact .bare (hv _ ▸ kind) free
  | configured kind given number =>
    rw [ht]
    exact .configured (hv _ ▸ kind) given number

/-- An action among some blocks belongs to the block of a component. -/
theorem exists_block_of_mem {facts : Facts} {action : Action} :
    ∀ {entries : List (String × Declaration)} {blocks : List (List Action)},
      List.Forall₂ (IsBlock facts) entries blocks → action ∈ blocks.flatten →
        ∃ entry ∈ entries, ∃ block, IsBlock facts entry block ∧ action ∈ block
  | _, _, .cons hblock hblocks, hmem => by
    rw [List.flatten_cons] at hmem
    rcases List.mem_append.1 hmem with hmem | hmem
    · exact ⟨_, List.mem_cons_self, _, hblock, hmem⟩
    · obtain ⟨entry, hentry, block, hfound, hmem⟩ := exists_block_of_mem hblocks hmem
      exact ⟨entry, List.mem_cons_of_mem _ hentry, block, hfound, hmem⟩

namespace Assembly

/-- Registering a component adds its block and settles a class tag at most. -/
theorem registerOne_block (state : Assembly × Facts) (entry : String × Declaration) :
    ∃ block, IsBlock state.2 entry block ∧
      (registerOne state entry).1.actions = state.1.actions ++ block ∧
        state.2.Settles (registerOne state entry).2 := by
  obtain ⟨assembly, facts⟩ := state
  obtain ⟨name, declaration⟩ := entry
  have hvisual : ((facts.descriptors.get? name).any fun descriptor => descriptor.isVisual) =
      facts.isVisual name := rfl
  rw [registerOne]
  dsimp only
  rw [hvisual]
  cases hv : facts.isVisual name with
  | false => exact ⟨_, .service hv, rfl, .refl facts⟩
  | true =>
    cases ha : declaration.attributes with
    | nil => exact ⟨_, .bare hv ha, rfl, .classTag facts name⟩
    | cons first others =>
      have hgiven : declaration.attributes ≠ [] := by simp [ha]
      exact ⟨_, .configured hv hgiven assembly.nextVariable, by rw [ha]; rfl, .classTag facts name⟩

theorem foldl_registerOne_blocks : ∀ (entries : List (String × Declaration))
    (state : Assembly × Facts), ∃ blocks, List.Forall₂ (IsBlock state.2) entries blocks ∧
      (entries.foldl registerOne state).1.actions = state.1.actions ++ blocks.flatten ∧
        state.2.Settles (entries.foldl registerOne state).2
  | [], state => ⟨[], .nil, (List.append_nil _).symm, .refl state.2⟩
  | entry :: entries, state => by
    obtain ⟨block, hblock, hactions, hsettles⟩ := registerOne_block state entry
    obtain ⟨blocks, hblocks, hall, hrest⟩ :=
      foldl_registerOne_blocks entries (registerOne state entry)
    have hsame := hblocks.imp fun _ _ hb => hb.congr hsettles.isVisual hsettles.tags
    refine ⟨block :: blocks, .cons hblock hsame, ?_, hsettles.trans hrest⟩
    rw [List.foldl_cons, hall, hactions, List.append_assoc, List.flatten_cons]

/-- Registering the declared components adds a block for each. -/
theorem registerAll_blocks (assembly : Assembly) (facts : Facts) :
    ∃ blocks, List.Forall₂ (IsBlock facts) facts.components blocks ∧
      (assembly.registerAll facts).1.actions = assembly.actions ++ blocks.flatten ∧
        facts.Settles (assembly.registerAll facts).2 :=
  foldl_registerOne_blocks facts.components (assembly, facts)

end Assembly

/-! ## Programs -/

/-- The action that embeds the markup of a page, if the build embeds markup. -/
def embedding (page : Page) (facts : Facts) : List Action :=
  if facts.embeds then
    [.embed Action.defaultTarget (Json.compactText page.body.children.html)]
  else []

/-- The action that launches the application. -/
def launching (facts : Facts) : Action :=
  if facts.target.isJs && !facts.embeds then .launchOnLoad else .launch

/-- The action that starts the script, unless a flag forbids it. -/
def starting (facts : Facts) : List Action :=
  if facts.hasFlag noAutoStart then [] else [.startInit]

theorem mem_embedding {page : Page} {facts : Facts} {action : Action} :
    action ∈ embedding page facts ↔ facts.embeds = true ∧
      action = .embed Action.defaultTarget (Json.compactText page.body.children.html) := by
  unfold embedding
  split
  · next he => simp [he]
  · next he => simp [he]

theorem launching_cases (facts : Facts) :
    launching facts = .launchOnLoad ∨ launching facts = .launch := by
  unfold launching
  split
  · exact .inl rfl
  · exact .inr rfl

theorem starting_cases (facts : Facts) : starting facts = [] ∨ starting facts = [.startInit] := by
  unfold starting
  split
  · exact .inl rfl
  · exact .inr rfl

theorem eq_of_mem_starting {facts : Facts} {action : Action} (h : action ∈ starting facts) :
    action = .startInit := by
  rcases starting_cases facts with hs | hs <;> rw [hs] at h
  · cases h
  · exact List.mem_singleton.1 h

theorem Facts.Settles.embeds {facts later : Facts} (h : facts.Settles later) :
    later.embeds = facts.embeds := by
  rw [Facts.embeds, Facts.embeds, h.target, h.hasFlag]

theorem embedMarkup_settles (page : Page) (assembly : Assembly) (facts : Facts) :
    (Assembly.embedMarkup page assembly facts).1.actions =
        assembly.actions ++ embedding page facts ∧
      facts.Settles (Assembly.embedMarkup page assembly facts).2 := by
  unfold Assembly.embedMarkup embedding
  split
  · exact ⟨rfl, .say facts _ _⟩
  · exact ⟨(List.append_nil _).symm, .refl facts⟩

theorem actions_wireLaunch (assembly : Assembly) (facts : Facts) :
    (assembly.wireLaunch facts).actions =
      assembly.actions ++ [launching facts] ++ starting facts := by
  unfold Assembly.wireLaunch starting
  dsimp only
  split
  · exact (List.append_nil _).symm
  · rfl

/-- A program consists of the blocks of the declared components, the embedded markup and the
launch. -/
theorem actions_assemble (page : Page) (facts : Facts) :
    facts.Settles (assemble page facts).2 ∧ ∃ blocks,
      List.Forall₂ (IsBlock facts) facts.components blocks ∧
        (assemble page facts).1.actions =
          blocks.flatten ++ embedding page facts ++ [launching facts] ++ starting facts := by
  obtain ⟨blocks, hblocks, hactions, hsettles⟩ := Assembly.empty.registerAll_blocks facts
  obtain ⟨hembedded, hsaid⟩ := embedMarkup_settles page (Assembly.empty.registerAll facts).1
    (Assembly.empty.registerAll facts).2
  have hall := hsettles.trans hsaid
  refine ⟨hall, blocks, hblocks, (actions_wireLaunch _ _).trans ?_⟩
  rw [hembedded, hactions, launching, hall.target, hall.embeds, starting, hall.hasFlag, embedding,
    hsettles.embeds]
  rfl

/-! ## Registrations -/

/-- The class tag that a component is registered with, if it is visual. -/
def Facts.tagOf (facts : Facts) (name : String) : Option String :=
  if facts.isVisual name then some (facts.classTag name).1 else none

theorem IsBlock.register {facts : Facts} {entry : String × Declaration} {block : List Action}
    (h : IsBlock facts entry block) {name : String} {arguments tag : Option String}
    (hmem : .register name arguments tag ∈ block) : name = entry.1 ∧ tag = facts.tagOf name := by
  cases h with
  | service kind =>
    obtain ⟨rfl, -, rfl⟩ := by simpa using hmem
    exact ⟨rfl, by rw [Facts.tagOf, kind]; rfl⟩
  | bare kind =>
    obtain ⟨rfl, -, rfl⟩ := by simpa using hmem
    exact ⟨rfl, (if_pos kind).symm⟩
  | configured kind =>
    obtain ⟨rfl, -, rfl⟩ := by simpa using hmem
    exact ⟨rfl, (if_pos kind).symm⟩

theorem register_mem_blocks {facts : Facts} {entries : List (String × Declaration)}
    {blocks : List (List Action)} (h : List.Forall₂ (IsBlock facts) entries blocks) {name : String}
    {arguments tag : Option String} (hmem : .register name arguments tag ∈ blocks.flatten) :
    (∃ declaration, (name, declaration) ∈ entries) ∧ tag = facts.tagOf name := by
  obtain ⟨entry, hentry, block, hblock, hmem⟩ := exists_block_of_mem h hmem
  obtain ⟨rfl, htag⟩ := hblock.register hmem
  exact ⟨⟨entry.2, hentry⟩, htag⟩

/-- A program registers declared components, each with its class tag. -/
theorem register_mem_assemble {page : Page} {facts : Facts} {name : String}
    {arguments tag : Option String}
    (hmem : .register name arguments tag ∈ (assemble page facts).1.actions) :
    (∃ declaration, (name, declaration) ∈ facts.components) ∧ tag = facts.tagOf name := by
  obtain ⟨-, blocks, hblocks, hactions⟩ := actions_assemble page facts
  rw [hactions] at hmem
  rcases List.mem_append.1 hmem with hmem | hmem
  · rcases List.mem_append.1 hmem with hmem | hmem
    · rcases List.mem_append.1 hmem with hmem | hmem
      · exact register_mem_blocks hblocks hmem
      · cases (mem_embedding.1 hmem).2
    · rcases launching_cases facts with hl | hl <;> cases (List.mem_singleton.1 hmem).trans hl
  · cases eq_of_mem_starting hmem

end PageCompiler.Build
