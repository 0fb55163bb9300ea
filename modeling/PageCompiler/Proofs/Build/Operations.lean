import PageCompiler.Build.Packaging
import PageCompiler.Proofs.Build.Assembly
import PageCompiler.Proofs.Build.Compliance
import PageCompiler.Proofs.Build.Directives
import PageCompiler.Proofs.Component.ClassTag
import PageCompiler.Proofs.Component.Registry

/-!
# Operations in any order

The operations of a build share one record of facts. A build runs them in a fixed order, but nothing
that a later one relies on depends on that : whatever was found out stays, and what comes new comes
behind it (`Facts.Grows`), and everything stands under its own name (`Facts.IsNamed`). Every
operation keeps this on its own, also a check that ends with a violation (`keeps_perform`); so it
holds after any operations in any order (`grows_of_operations`).
-/

namespace PageCompiler.Build

open Component

/-! ## What stays -/

/-- A name, or what stands behind its last point. -/
def IsTagOf (name tag : String) : Prop :=
  tag = name ∨ ∃ package, name = package ++ "." ++ tag ∧ '.' ∉ tag.toList

namespace Facts

/-- Declarations and types stand under their own names, and class tags under names that they are
tags of. -/
structure IsNamed (facts : Facts) : Prop where
  components : ∀ entry ∈ facts.components, entry.1 = entry.2.name
  descriptors : ∀ entry ∈ facts.descriptors, entry.1 = entry.2.name
  classTags : ∀ entry ∈ facts.classTags, IsTagOf entry.1 entry.2

/-- Later facts have lost nothing : declared components, class tags, parameters and warnings are
followed by new ones at most, no class tag has changed, and all flags are still set. -/
structure Grows (facts later : Facts) : Prop where
  components : facts.components.keys <+: later.components.keys
  classTags : facts.classTags.keys <+: later.classTags.keys
  parameters : facts.parameters.keys <+: later.parameters.keys
  warnings : facts.warnings <+: later.warnings
  settled : ∀ {name tag}, facts.classTags.get? name = some tag →
    later.classTags.get? name = some tag
  flags : facts.flags ⊆ later.flags

/-- Later facts have lost nothing, and everything stands under its own name if it did. -/
structure Keeps (facts later : Facts) : Prop extends Grows facts later where
  named : facts.IsNamed → later.IsNamed

namespace Keeps

variable {facts later last : Facts}

theorem refl (facts : Facts) : Keeps facts facts :=
  ⟨⟨List.prefix_rfl, List.prefix_rfl, List.prefix_rfl, List.prefix_rfl, id, fun _ h => h⟩, id⟩

theorem trans (h : Keeps facts later) (hl : Keeps later last) : Keeps facts last where
  components := h.components.trans hl.components
  classTags := h.classTags.trans hl.classTags
  parameters := h.parameters.trans hl.parameters
  warnings := h.warnings.trans hl.warnings
  settled ht := hl.settled (h.settled ht)
  flags := fun _ hf => hl.flags (h.flags hf)
  named hn := hl.named (h.named hn)

theorem foldl {σ ι : Type} (facts : σ → Facts) {step : σ → ι → σ}
    (hstep : ∀ state item, Keeps (facts state) (facts (step state item))) (items : List ι)
    (state : σ) : Keeps (facts state) (facts (items.foldl step state)) :=
  items.foldlRecOn (motive := fun later => Keeps (facts state) (facts later)) step
    (.refl (facts state)) fun later h item _ => h.trans (hstep later item)

/-- Warnings, flags and what has no name may change. -/
theorem of_same (hcomponents : later.components = facts.components)
    (hdescriptors : later.descriptors = facts.descriptors)
    (hclassTags : later.classTags = facts.classTags)
    (hparameters : later.parameters = facts.parameters)
    (hwarnings : facts.warnings <+: later.warnings) (hflags : facts.flags ⊆ later.flags) :
    Keeps facts later where
  components := hcomponents ▸ List.prefix_rfl
  classTags := hclassTags ▸ List.prefix_rfl
  parameters := hparameters ▸ List.prefix_rfl
  warnings := hwarnings
  settled := by rw [hclassTags]; exact id
  flags := hflags
  named hn :=
    ⟨hcomponents ▸ hn.components, hdescriptors ▸ hn.descriptors, hclassTags ▸ hn.classTags⟩

end Keeps

/-! ## Single changes -/

theorem keeps_say (facts : Facts) (level : Level) (message : String) :
    facts.Keeps (facts.say level message) :=
  .of_same rfl rfl rfl rfl List.prefix_rfl fun _ h => h

theorem keeps_warn (facts : Facts) (message : String) : facts.Keeps (facts.warn message) :=
  .of_same rfl rfl rfl rfl (List.prefix_append _ _) fun _ h => h

theorem keeps_setFlag (facts : Facts) (name : String) : facts.Keeps (facts.setFlag name) := by
  rw [setFlag_eq]
  exact .of_same rfl rfl rfl rfl List.prefix_rfl fun _ h => mem_flags_setFlag.2 (.inl h)

theorem keeps_exposedName (facts : Facts) (name : Option String) :
    facts.Keeps { facts with exposedName := name } :=
  .of_same rfl rfl rfl rfl List.prefix_rfl fun _ h => h

theorem keeps_declare (facts : Facts) (name : String) (attributes : Keyed String) (site : String) :
    facts.Keeps (facts.declare name attributes site) := by
  refine { Keeps.refl facts with
    components := Keyed.keys_prefix_put _ _ _
    named := fun hn => ⟨fun entry hmem => ?_, hn.descriptors, hn.classTags⟩ }
  rcases Keyed.mem_put hmem with rfl | hmem
  · rfl
  · exact hn.components entry hmem

theorem keeps_putDescriptor (facts : Facts) {name : String} {descriptor : Descriptor}
    (hname : descriptor.name = name) :
    facts.Keeps { facts with descriptors := facts.descriptors.put name descriptor } := by
  refine { Keeps.refl facts with
    named := fun hn => ⟨hn.components, fun entry hmem => ?_, hn.classTags⟩ }
  rcases Keyed.mem_put hmem with rfl | hmem
  · exact hname.symm
  · exact hn.descriptors entry hmem

theorem keeps_putParameter (facts : Facts) (name value : String) :
    facts.Keeps { facts with parameters := facts.parameters.put name value } :=
  { Keeps.refl facts with
    parameters := Keyed.keys_prefix_put _ _ _
    named := fun hn => ⟨hn.components, hn.descriptors, hn.classTags⟩ }

end Facts

theorem isTagOf_shortName (name : String) : IsTagOf name (shortName name) := by
  obtain ⟨-, hshort⟩ | ⟨before, after, hname, hafter, hshort⟩ := shortName_cases name
  · exact .inl hshort
  · refine .inr ⟨String.ofList before, ?_, by rwa [hshort, String.toList_ofList]⟩
    apply String.toList_inj.1
    simp [hname, hshort]

theorem isTagOf_classTag (name : String) (declared : List String) :
    IsTagOf name (Component.classTag name declared) := by
  obtain htag | htag := classTag_cases name declared
  · exact .inl htag
  · exact htag ▸ isTagOf_shortName name

/-- A class tag that is asked for is settled now or has been settled before. -/
theorem keeps_classTag (facts : Facts) (name : String) : facts.Keeps (facts.classTag name).2 := by
  unfold Facts.classTag
  split
  · exact .refl facts
  · next hnew =>
    refine { Facts.Keeps.refl facts with
      classTags := Keyed.keys_prefix_put _ _ _
      settled := fun {other tag} ho => ?_
      named := fun hn => ⟨hn.components, hn.descriptors, fun entry hmem => ?_⟩ }
    · have hne : name ≠ other := fun he => by
        rw [he, ho] at hnew
        cases hnew
      exact (Keyed.get?_put _ _ _ _).trans ((if_neg hne).trans ho)
    · rcases Keyed.mem_put hmem with rfl | hmem
      · exact isTagOf_classTag name _
      · exact hn.classTags entry hmem

/-! ## Phases -/

theorem keeps_follow (facts : Facts) (directive : Directive) :
    facts.Keeps (facts.follow directive) := by
  cases directive with
  | flag name => exact (facts.keeps_say _ _).trans (Facts.keeps_setFlag _ name)
  | exposedName name =>
    cases name with
    | some name => exact .of_same rfl rfl rfl rfl List.prefix_rfl fun _ h => h
    | none => exact facts.keeps_warn _
  | parameter name value => exact facts.keeps_putParameter name value

theorem keeps_followElement (state : Page × Facts) (id : Nat) :
    state.2.Keeps (followElement state id).2 := by
  unfold followElement
  split
  · exact .refl state.2
  · split
    · exact .refl state.2
    · exact keeps_follow state.2 _

theorem keeps_declareAt (head : Markup.Head) (facts : Facts) (name : String) :
    facts.Keeps (Facts.declareAt head facts name) := by
  unfold Facts.declareAt
  split
  · exact (facts.keeps_say _ _).trans (Facts.keeps_declare _ _ _ _)
  · exact facts.keeps_declare _ _ _

theorem keeps_readScript (state : Page × Facts) (number : Nat) :
    state.2.Keeps (readScript state number).2 := by
  unfold readScript
  split
  · exact .refl state.2
  · exact Facts.Keeps.foldl id (keeps_declareAt _) _ state.2

theorem keeps_examineComponent (page : Page) (facts : Facts) (descriptor : Descriptor)
    (declaration : Declaration) :
    facts.Keeps (examineComponent page facts descriptor declaration).1 := by
  unfold examineComponent
  split
  · exact (keeps_classTag facts descriptor.name).trans (Facts.keeps_say _ _ _)
  · exact .refl facts

/-- The check keeps what it has found out before a violation. -/
theorem keeps_examineAll {registry : Registry} (hmade : registry.Made) (page : Page) :
    ∀ (entries : List (String × Declaration)) (facts : Facts),
      facts.Keeps (examineAll page registry facts entries).1
  | [], facts => .refl facts
  | (name, declaration) :: entries, facts => by
    rw [examineAll]
    split
    · exact .refl facts
    · next descriptor hresolve =>
      have hknown := facts.keeps_putDescriptor (hmade.name_of_resolve hresolve)
      have hchecked := hknown.trans (keeps_examineComponent page _ descriptor declaration)
      dsimp only
      split
      · next checked violation hexamined =>
        rw [hexamined] at hchecked
        exact hchecked
      · next checked hexamined =>
        rw [hexamined] at hchecked
        exact hchecked.trans (keeps_examineAll hmade page entries checked)

theorem keeps_package (settings : Settings) (facts : Facts) :
    facts.Keeps (package settings facts) := by
  have hflagged := facts.keeps_setFlag jsModern
  unfold package
  split
  · exact .refl facts
  · refine Facts.Keeps.trans ?_ (Facts.keeps_say _ _ _)
    split
    · exact (hflagged.trans (Facts.keeps_warn _ _)).trans (Facts.keeps_exposedName _ _)
    · split
      · exact hflagged.trans (Facts.keeps_exposedName _ _)
      · exact hflagged.trans (Facts.keeps_exposedName _ _)

theorem keeps_registerOne (state : Assembly × Facts) (entry : String × Declaration) :
    state.2.Keeps (Assembly.registerOne state entry).2 := by
  unfold Assembly.registerOne
  dsimp only
  split
  · exact .refl state.2
  · split
    · exact keeps_classTag state.2 entry.1
    · exact keeps_classTag state.2 entry.1

theorem keeps_embedMarkup (page : Page) (assembly : Assembly) (facts : Facts) :
    facts.Keeps (assembly.embedMarkup page facts).2 := by
  unfold Assembly.embedMarkup
  split
  · exact facts.keeps_say _ _
  · exact .refl facts

/-! ## Any order -/

/-- What the operations of a build work on. -/
structure Session where
  page : Page
  facts : Facts
  assembly : Assembly

/-- An operation of a build. -/
inductive Operation
  | declare (name : String) (attributes : Keyed String) (site : String)
  | askTag (name : String)
  | setFlag (name : String)
  | warn (message : String)
  | followDirectives
  | readDeclarations
  | examine
  | matching (name : String)
  | package (settings : Settings)
  | registerAll
  | embedMarkup
  | wireLaunch

namespace Session

/-- Before the first operation. -/
def start (page : Page) (target : Target) (flags : List String) : Session :=
  ⟨page, .start target flags, .empty⟩

/-- The session after an operation. A check may end with a violation; what it found out before that
stays. -/
def perform (registry : Registry) (session : Session) : Operation → Session
  | .declare name attributes site =>
    { session with facts := session.facts.declare name attributes site }
  | .askTag name => { session with facts := (session.facts.classTag name).2 }
  | .setFlag name => { session with facts := session.facts.setFlag name }
  | .warn message => { session with facts := session.facts.warn message }
  | .followDirectives =>
    let followed := followDirectives session.page session.facts
    { session with page := followed.1, facts := followed.2 }
  | .readDeclarations =>
    let read := readDeclarations session.page session.facts
    { session with page := read.1, facts := read.2 }
  | .examine => { session with facts := (examine session.page registry session.facts).1 }
  | .matching name => { session with facts := (matching session.page session.facts name).2 }
  | .package settings => { session with facts := package settings session.facts }
  | .registerAll =>
    let registered := session.assembly.registerAll session.facts
    { session with assembly := registered.1, facts := registered.2 }
  | .embedMarkup =>
    let embedded := session.assembly.embedMarkup session.page session.facts
    { session with assembly := embedded.1, facts := embedded.2 }
  | .wireLaunch => { session with assembly := session.assembly.wireLaunch session.facts }

end Session

theorem keeps_perform {registry : Registry} (hmade : registry.Made) (session : Session)
    (operation : Operation) :
    session.facts.Keeps (session.perform registry operation).facts := by
  cases operation with
  | declare name attributes site => exact Facts.keeps_declare _ name attributes site
  | askTag name => exact keeps_classTag _ name
  | setFlag name => exact Facts.keeps_setFlag _ name
  | warn message => exact Facts.keeps_warn _ message
  | followDirectives => exact Facts.Keeps.foldl Prod.snd keeps_followElement _ (_, session.facts)
  | readDeclarations => exact Facts.Keeps.foldl Prod.snd keeps_readScript _ (_, session.facts)
  | examine => exact keeps_examineAll hmade _ _ _
  | matching name => exact keeps_classTag _ name
  | package settings => exact keeps_package settings _
  | registerAll => exact Facts.Keeps.foldl Prod.snd keeps_registerOne _ (_, session.facts)
  | embedMarkup => exact keeps_embedMarkup _ _ _
  | wireLaunch => exact .refl _

/-- The session after some operations, from the first to the last. -/
def Session.run (registry : Registry) (session : Session) (operations : List Operation) : Session :=
  operations.foldl (Session.perform registry) session

theorem keeps_run {registry : Registry} (hmade : registry.Made) (session : Session)
    (operations : List Operation) :
    session.facts.Keeps (session.run registry operations).facts :=
  Facts.Keeps.foldl Session.facts (keeps_perform hmade) operations session

theorem isNamed_start (target : Target) (flags : List String) :
    (Facts.start target flags).IsNamed :=
  ⟨fun _ hmem => absurd hmem List.not_mem_nil, fun _ hmem => absurd hmem List.not_mem_nil,
    fun _ hmem => absurd hmem List.not_mem_nil⟩

/-- After any operations in any order everything stands under its own name, and more operations only
add to what was found out. -/
theorem grows_of_operations {registry : Registry} (hmade : registry.Made) (page : Page)
    (target : Target) (flags : List String) (operations more : List Operation) :
    ((Session.start page target flags).run registry operations).facts.IsNamed ∧
      ((Session.start page target flags).run registry operations).facts.Grows
        ((Session.start page target flags).run registry (operations ++ more)).facts := by
  constructor
  · exact (keeps_run hmade (.start page target flags) operations).named (isNamed_start target flags)
  · have hmore := keeps_run hmade ((Session.start page target flags).run registry operations) more
    rw [Session.run, Session.run, ← List.foldl_append] at hmore
    exact hmore.toGrows

/-- A registry that knows one visual component. -/
def crateRegistry : Registry :=
  Registry.base.register ⟨"a.Crate", .visual, []⟩

/-- A page that declares it. -/
def crateMarkup : String :=
  "<meta name=c content=1><script data-slp-use=a.Crate></script>"

/-- Operations up to a check that comes to an unknown component with the same short name. -/
def crateOperations : List Operation :=
  [.followDirectives, .readDeclarations, .askTag "a.Crate", .declare "b.Crate" [] "", .examine]

/-- The class tag that was settled early stays when the check ends with a violation and the
component is declared once more. -/
theorem grows_of_operations_crate :
    ∃ page session, Page.ofMarkup crateMarkup = .ok page ∧
      session = (Session.start page .js ["d"]).run crateRegistry crateOperations ∧
      (examine session.page crateRegistry session.facts).2 = some (.unknownType "b.Crate") ∧
      session.facts.classTags = [("a.Crate", "Crate")] ∧ session.facts.IsNamed ∧
      session.facts.Grows ((Session.start page .js ["d"]).run crateRegistry
        (crateOperations ++ [.declare "a.Crate" [] "", .registerAll])).facts := by
  have hrun : ((Page.ofMarkup crateMarkup).toOption.any fun page =>
      let session := (Session.start page .js ["d"]).run crateRegistry crateOperations
      (examine session.page crateRegistry session.facts).2 == some (.unknownType "b.Crate") &&
        session.facts.classTags == [("a.Crate", "Crate")]) = true := by
    decide +kernel
  obtain ⟨page, hread, hresult⟩ := exists_ok_of_any hrun
  rw [Bool.and_eq_true, beq_iff_eq, beq_iff_eq] at hresult
  have hmade : crateRegistry.Made := Registry.Made.base.register _
  exact ⟨page, _, hread, rfl, hresult.1, hresult.2, grows_of_operations hmade page .js ["d"]
    crateOperations [.declare "a.Crate" [] "", .registerAll]⟩

end PageCompiler.Build
