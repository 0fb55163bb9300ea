import PageCompiler.Program.Script
import PageCompiler.Proofs.Build.Plan

/-!
# What a program depends on

A program shows the runtime parameters, the exposed name, the declared components in their order
with their types and class tags, two of the flags, and the attributes of visual components. Facts
that agree on these (`Facts.Agrees`) give the same program, whatever else they say
(`assemble_of_agrees`) : the attributes of a service, the place where a component is declared and
any other flag stay out of it.

The components are gone through in step : the variables are counted alike on both sides, since a
component takes one only if it is visual and has attributes, and a class tag that is settled on one
side is settled on the other (`registerOne_of_agrees`). So nothing of a service gets into the
program by way of the numbers and tags of the components behind it.
-/

namespace PageCompiler.Build

open Markup

/-- The entries declare the same component, with the same attributes if it is visual. -/
def SameShown (visual : String → Bool) (entry other : String × Declaration) : Prop :=
  other.1 = entry.1 ∧ (visual entry.1 = true → other.2.attributes = entry.2.attributes)

/-- The facts agree on everything that a program may show. -/
structure Facts.Agrees (facts other : Facts) : Prop where
  target : other.target = facts.target
  parameters : other.parameters = facts.parameters
  exposedName : other.exposedName = facts.exposedName
  descriptors : ∀ name, other.descriptors.get? name = facts.descriptors.get? name
  classTags : ∀ name, other.classTags.get? name = facts.classTags.get? name
  embedHtml : other.hasFlag Build.embedHtml = facts.hasFlag Build.embedHtml
  noAutoStart : other.hasFlag Build.noAutoStart = facts.hasFlag Build.noAutoStart
  components : List.Forall₂ (SameShown facts.isVisual) facts.components other.components

theorem keys_of_sameShown {visual : String → Bool} {entries others : Keyed Declaration}
    (h : List.Forall₂ (SameShown visual) entries others) : others.keys = entries.keys := by
  induction h with
  | nil => rfl
  | cons hfirst _ ih => exact congrArg₂ List.cons hfirst.1 ih

namespace Facts.Agrees

variable {facts other : Facts}

theorem keys (h : facts.Agrees other) : other.components.keys = facts.components.keys :=
  keys_of_sameShown h.components

theorem isVisual (h : facts.Agrees other) (name : String) :
    other.isVisual name = facts.isVisual name := by
  rw [Facts.isVisual, h.descriptors]
  rfl

theorem embeds (h : facts.Agrees other) : other.embeds = facts.embeds := by
  rw [Facts.embeds, Facts.embeds, h.target, h.embedHtml]

theorem classTag_fst (h : facts.Agrees other) (name : String) :
    (other.classTag name).1 = (facts.classTag name).1 := by
  rw [Facts.classTag_fst, Facts.classTag_fst, h.classTags, h.keys]

/-- Asking for a class tag settles the same on both sides. -/
theorem classTag (h : facts.Agrees other) (name : String) :
    (facts.classTag name).2.Agrees (other.classTag name).2 := by
  have htags : ∀ asked, (other.classTag name).2.classTags.get? asked =
      (facts.classTag name).2.classTags.get? asked := by
    intro asked
    rw [get?_classTags_classTag, get?_classTags_classTag, h.classTag_fst, h.classTags]
  rw [facts.classTag_eq, other.classTag_eq]
  exact { h with classTags := htags }

/-- What was said is not compared. -/
theorem say (h : facts.Agrees other) (level : Level) (message : String) :
    (facts.say level message).Agrees (other.say level message) :=
  { h with }

end Facts.Agrees

/-! ## Assembling in step -/

namespace Assembly

/-- Registering a component on both sides adds the same actions and takes the same variable. -/
theorem registerOne_of_agrees {state other : Assembly × Facts} (hsame : other.1 = state.1)
    (h : state.2.Agrees other.2) {entry entry' : String × Declaration}
    (hentry : SameShown state.2.isVisual entry entry') :
    (registerOne other entry').1 = (registerOne state entry).1 ∧
      (registerOne state entry).2.Agrees (registerOne other entry').2 := by
  obtain ⟨assembly, facts⟩ := state
  obtain ⟨_, other⟩ := other
  obtain ⟨_, declaration⟩ := entry
  obtain ⟨name, declaration'⟩ := entry'
  obtain rfl := hsame
  obtain ⟨rfl, hattributes⟩ := hentry
  have hvisual := h.isVisual name
  have htag := h.classTag_fst name
  have hsettled := h.classTag name
  unfold Facts.isVisual at hvisual hattributes
  dsimp only [registerOne] at *
  rw [hvisual, htag]
  split
  · exact ⟨rfl, h⟩
  · next hv =>
    rw [hattributes (by simpa using hv)]
    split
    · exact ⟨rfl, hsettled⟩
    · exact ⟨rfl, hsettled⟩

theorem foldl_registerOne_of_agrees : ∀ {entries others : List (String × Declaration)}
    (state other : Assembly × Facts), other.1 = state.1 → state.2.Agrees other.2 →
    List.Forall₂ (SameShown state.2.isVisual) entries others →
      (others.foldl registerOne other).1 = (entries.foldl registerOne state).1 ∧
        (entries.foldl registerOne state).2.Agrees (others.foldl registerOne other).2
  | _, _, _, _, hsame, h, .nil => ⟨hsame, h⟩
  | entry :: entries, entry' :: others, state, other, hsame, h, .cons hentry hrest => by
    obtain ⟨hassembly, hagrees⟩ := registerOne_of_agrees hsame h hentry
    obtain ⟨block, -, -, hsettles⟩ := registerOne_block state entry
    have hvisual : (registerOne state entry).2.isVisual = state.2.isVisual :=
      funext hsettles.isVisual
    rw [List.foldl_cons, List.foldl_cons]
    exact foldl_registerOne_of_agrees _ _ hassembly hagrees (hvisual ▸ hrest)

theorem embedMarkup_of_agrees (page : Page) (assembly : Assembly) {facts other : Facts}
    (h : facts.Agrees other) :
    (embedMarkup page assembly other).1 = (embedMarkup page assembly facts).1 ∧
      (embedMarkup page assembly facts).2.Agrees (embedMarkup page assembly other).2 := by
  unfold embedMarkup
  rw [h.embeds]
  split
  · exact ⟨rfl, h.say _ _⟩
  · exact ⟨rfl, h⟩

theorem program_wireLaunch_of_agrees (assembly : Assembly) {facts other : Facts}
    (h : facts.Agrees other) :
    (assembly.wireLaunch other).program other = (assembly.wireLaunch facts).program facts := by
  rw [wireLaunch, wireLaunch, program, program, h.target, h.embeds, h.noAutoStart, h.parameters,
    h.exposedName]

end Assembly

/-! ## Programs -/

theorem program_of_agrees (page : Page) {facts other : Facts} (h : facts.Agrees other) :
    (assemble page other).1 = (assemble page facts).1 := by
  obtain ⟨hregistered, hlater⟩ := Assembly.foldl_registerOne_of_agrees
    (Assembly.empty, facts) (Assembly.empty, other) rfl h h.components
  obtain ⟨hembedded, hlast⟩ := Assembly.embedMarkup_of_agrees page
    (facts.components.foldl Assembly.registerOne (Assembly.empty, facts)).1 hlater
  dsimp only [assemble, Assembly.registerAll]
  rw [hregistered, hembedded]
  exact Assembly.program_wireLaunch_of_agrees _ hlast

/-- The same component declared elsewhere and, if it is not visual, with other attributes. -/
theorem agrees_redeclared {facts : Facts} {redeclared : String × Declaration → Declaration}
    (h : ∀ entry ∈ facts.components, facts.isVisual entry.1 = true →
      (redeclared entry).attributes = entry.2.attributes) :
    facts.Agrees { facts with
      components := facts.components.map fun entry => (entry.1, redeclared entry) } where
  target := rfl
  parameters := rfl
  exposedName := rfl
  descriptors := fun _ => rfl
  classTags := fun _ => rfl
  embedHtml := rfl
  noAutoStart := rfl
  components := by
    rw [List.forall₂_map_right_iff, List.forall₂_same]
    exact fun entry hmem => ⟨rfl, h entry hmem⟩

/-- One more flag without a meaning to the program. -/
theorem agrees_setFlag (facts : Facts) {name : String} (hembed : embedHtml ≠ name)
    (hstart : noAutoStart ≠ name) : facts.Agrees (facts.setFlag name) := by
  have hreads := facts.reads_setFlag name
  have hparameters : (facts.setFlag name).parameters = facts.parameters ∧
      (facts.setFlag name).exposedName = facts.exposedName := by
    rw [facts.setFlag_eq]
    exact ⟨rfl, rfl⟩
  exact
    { target := hreads.target
      parameters := hparameters.1
      exposedName := hparameters.2
      descriptors := fun asked => congrArg (Keyed.get? · asked) hreads.descriptors
      classTags := fun asked => congrArg (Keyed.get? · asked) hreads.classTags
      embedHtml := hasFlag_setFlag facts hembed
      noAutoStart := hasFlag_setFlag facts hstart
      components := by
        rw [components_setFlag, List.forall₂_same]
        exact fun entry _ => ⟨rfl, fun _ => rfl⟩ }

/-- Facts that agree on what a program shows give the same program, script and JSON text. So no
attribute of a component that is not visual, no place of a declaration and no flag but two can be
told from a program. -/
theorem assemble_of_agrees (page : Page) :
    (∀ {facts other : Facts}, facts.Agrees other →
      (assemble page other).1 = (assemble page facts).1 ∧
        (assemble page other).1.script = (assemble page facts).1.script ∧
        ∀ indent, (assemble page other).1.toText indent = (assemble page facts).1.toText indent) ∧
    (∀ (facts : Facts) (redeclared : String × Declaration → Declaration),
      (∀ entry ∈ facts.components, facts.isVisual entry.1 = true →
        (redeclared entry).attributes = entry.2.attributes) →
      (assemble page { facts with
          components := facts.components.map fun entry => (entry.1, redeclared entry) }).1 =
        (assemble page facts).1) ∧
    ∀ (facts : Facts) (name : String), name ≠ embedHtml → name ≠ noAutoStart →
      (assemble page (facts.setFlag name)).1 = (assemble page facts).1 := by
  refine ⟨fun {facts other} h => ?_, fun facts redeclared h => ?_,
    fun facts name hembed hstart => ?_⟩
  · have hsame := program_of_agrees page h
    exact ⟨hsame, congrArg Program.script hsame,
      fun indent => congrArg (Program.toText · indent) hsame⟩
  · exact program_of_agrees page (agrees_redeclared h)
  · exact program_of_agrees page (agrees_setFlag facts hembed.symm hstart.symm)

/-- A page with markup to embed. -/
def notePage : Page :=
  .ofDocument ⟨documentHead, .leaf (.text "note") .nil⟩

/-- A service without attributes in front of a visual component with one. -/
def briefFacts : Facts :=
  { ((Facts.start .js [embedHtml]).declare "app.Log" [] "").declare "ui.Note" [("data-n", "1")] ""
    with
    descriptors :=
      [("app.Log", ⟨"app.Log", .service, []⟩), ("ui.Note", ⟨"ui.Note", .visual, []⟩)] }

/-- The service has an attribute, both components are declared somewhere, and there are a flag, a
warning and a name that the page asks for. -/
def wordyFacts : Facts :=
  { (((Facts.start .js ["debug", embedHtml]).declare "app.Log" [("data-level", "all")] "<script>"
      ).declare "ui.Note" [("data-n", "1")] "<script id=x>").warn "blank name" with
    descriptors :=
      [("app.Log", ⟨"app.Log", .service, []⟩), ("ui.Note", ⟨"ui.Note", .visual, []⟩)]
    exposedNameOverride := some "notes" }

theorem assemble_of_agrees_note :
    briefFacts.Agrees wordyFacts ∧ briefFacts.components ≠ wordyFacts.components ∧
      (assemble notePage wordyFacts).1 = (assemble notePage briefFacts).1 ∧
      (assemble notePage briefFacts).1.actions.contains
        (.holdArguments "args0" [("data-n", "1")]) = true ∧
      (assemble notePage (briefFacts.setFlag disableFastInit)).1 =
        (assemble notePage briefFacts).1 := by
  have hagrees : briefFacts.Agrees wordyFacts :=
    { target := rfl
      parameters := rfl
      exposedName := rfl
      descriptors := fun _ => rfl
      classTags := fun _ => rfl
      embedHtml := by decide
      noAutoStart := by decide
      components := .cons ⟨rfl, by decide⟩ (.cons ⟨rfl, by decide⟩ .nil) }
  obtain ⟨hsame, -, hflag⟩ := assemble_of_agrees notePage
  exact ⟨hagrees, by decide, (hsame hagrees).1, by decide +kernel,
    hflag briefFacts disableFastInit (by decide) (by decide)⟩

end PageCompiler.Build
