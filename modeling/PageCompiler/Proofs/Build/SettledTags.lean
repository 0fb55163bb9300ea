import PageCompiler.Proofs.Build.Plan
import PageCompiler.Proofs.Component.Registry

/-!
# One class tag for check and program

The check selects the elements of a visual component by its class tag, and the program registers the
component with one. Both ask for the tag when they need it, and the answer depends on the components
that are declared by then; but the tag is settled the first time, so it is the same whatever is
declared or asked for in between (`tags_agree`).

The check asks by the name of the type that the registry knows, the program by the declared name. In
a registry that was made by registering types these are the same name. In a whole build nothing is
declared after the page was read, so the tag is the one that the declared names give.
-/

namespace PageCompiler.Build

open Component

/-! ## The check on its way -/

/-- Checking these entries, from these facts on, comes to a component, finds out its type, and goes
on to its rules with the facts known by then. -/
inductive Reaches (page : Page) (registry : Registry) : Facts → List (String × Declaration) →
    String × Declaration → Descriptor → Facts → Prop
  | first {facts : Facts} {name : String} {declaration : Declaration}
      {entries : List (String × Declaration)} {descriptor : Descriptor}
      (known : registry.resolve name = some descriptor) :
      Reaches page registry facts ((name, declaration) :: entries) (name, declaration) descriptor
        { facts with descriptors := facts.descriptors.put name descriptor }
  | later {facts between reached : Facts} {name : String} {declaration : Declaration}
      {entries : List (String × Declaration)} {entry : String × Declaration}
      {descriptor found : Descriptor} (known : registry.resolve name = some descriptor)
      (passed : examineComponent page
        { facts with descriptors := facts.descriptors.put name descriptor } descriptor declaration =
          (between, none))
      (reaches : Reaches page registry between entries entry found reached) :
      Reaches page registry facts ((name, declaration) :: entries) entry found reached

section

variable {page : Page} {registry : Registry}

theorem Reaches.known {facts reached : Facts} {entries : List (String × Declaration)}
    {entry : String × Declaration} {descriptor : Descriptor}
    (h : Reaches page registry facts entries entry descriptor reached) :
    entry ∈ entries ∧ registry.resolve entry.1 = some descriptor := by
  induction h with
  | first known => exact ⟨List.mem_cons_self, known⟩
  | later _ _ _ ih => exact ⟨List.mem_cons_of_mem _ ih.1, ih.2⟩

/-- What the check knows on its way it knows in the end. -/
theorem Reaches.extends {facts reached checked : Facts} {entries : List (String × Declaration)}
    {entry : String × Declaration} {descriptor : Descriptor}
    (h : Reaches page registry facts entries entry descriptor reached)
    (hall : examineAll page registry facts entries = (checked, none)) :
    Extends registry reached checked := by
  induction h with
  | @first facts name declaration entries descriptor known =>
    obtain ⟨found, between, hr, hexamined, hrest⟩ := examineAll_cons hall
    obtain rfl : descriptor = found := Option.some.inj (known.symm.trans hr)
    obtain ⟨hfirst, -⟩ := complies_of_examineComponent (name, declaration)
      (by rw [Keyed.get?_put, if_pos rfl]) hr hexamined
    exact hfirst.trans (complies_of_examineAll hrest).1
  | later known passed _ ih =>
    obtain ⟨found, between, hr, hexamined, hrest⟩ := examineAll_cons hall
    obtain rfl := Option.some.inj (known.symm.trans hr)
    obtain ⟨rfl, -⟩ := Prod.mk.inj (passed.symm.trans hexamined)
    exact ih hrest

/-- A check that finds no violation comes to every component. -/
theorem reaches_of_examineAll {checked : Facts} : ∀ {entries : List (String × Declaration)}
    {facts : Facts}, examineAll page registry facts entries = (checked, none) →
      ∀ entry ∈ entries, ∃ descriptor reached,
        Reaches page registry facts entries entry descriptor reached
  | [], _, _, _, hmem => absurd hmem List.not_mem_nil
  | (name, declaration) :: entries, facts, h, entry, hmem => by
    obtain ⟨descriptor, between, hr, hexamined, hrest⟩ := examineAll_cons h
    rcases List.mem_cons.1 hmem with rfl | hmem
    · exact ⟨descriptor, _, .first hr⟩
    · obtain ⟨found, reached, hreaches⟩ := reaches_of_examineAll hrest entry hmem
      exact ⟨found, reached, .later hr hexamined hreaches⟩

end

/-! ## Between check and program -/

/-- What can happen to the facts of a build between check and program. -/
inductive Step
  | declare (name : String) (attributes : Keyed String) (site : String)
  | askTag (name : String)

/-- The facts after a step. -/
def Facts.after (facts : Facts) : Step → Facts
  | .declare name attributes site => facts.declare name attributes site
  | .askTag name => (facts.classTag name).2

theorem settled_after (facts : Facts) (step : Step) :
    (facts.after step).descriptors = facts.descriptors ∧
      ∀ {name tag}, facts.classTags.get? name = some tag →
        (facts.after step).classTags.get? name = some tag := by
  cases step with
  | declare => exact ⟨rfl, id⟩
  | askTag asked =>
    have hsettles := Facts.Settles.classTag facts asked
    exact ⟨hsettles.descriptors, hsettles.settled⟩

/-- Steps change no type and no class tag that is settled. -/
theorem settled_foldl_after : ∀ (steps : List Step) (facts : Facts),
    (steps.foldl Facts.after facts).descriptors = facts.descriptors ∧
      ∀ {name tag}, facts.classTags.get? name = some tag →
        (steps.foldl Facts.after facts).classTags.get? name = some tag
  | [], _ => ⟨rfl, id⟩
  | step :: steps, facts => by
    obtain ⟨hdescriptors, hsettled⟩ := settled_after facts step
    obtain ⟨hrest, hlater⟩ := settled_foldl_after steps (facts.after step)
    exact ⟨hrest.trans hdescriptors, fun htag => hlater (hsettled htag)⟩

/-! ## Registrations -/

/-- A visual component that was checked is registered with the tag by which the check selected its
elements, whatever happened since. -/
theorem tag_of_reaches {registry : Registry} (hmade : registry.Made) {page : Page}
    {facts checked reached : Facts} (h : examine page registry facts = (checked, none))
    {name : String} {declaration : Declaration} {descriptor : Descriptor}
    (hreaches : Reaches page registry facts facts.components (name, declaration) descriptor reached)
    (hv : descriptor.isVisual = true) (steps : List Step) :
    (steps.foldl Facts.after checked).tagOf name = some (reached.classTag name).1 := by
  obtain ⟨hmem, hr⟩ := hreaches.known
  have hname : descriptor.name = name := hmade.name_of_resolve hr
  obtain ⟨found, hfound, hc⟩ := (complies_of_examine h).2 _ hmem
  obtain rfl : descriptor = found := Option.some.inj (hr.symm.trans hfound)
  obtain ⟨tag, htag, -⟩ := hc.visual hv
  rw [hname] at htag
  obtain ⟨hdescriptors, hsettled⟩ := settled_foldl_after steps checked
  have hvisual : (steps.foldl Facts.after checked).isVisual name = true := by
    rw [Facts.isVisual, hdescriptors]
    exact (isVisual_of_complies hc).trans hv
  rw [Facts.tagOf, if_pos hvisual, Facts.classTag_fst, hsettled htag,
    ← (hreaches.extends h).tags, Facts.classTag_fst, htag]
  rfl

/-- Check and program agree on class tags. If the check passes, it came to every component, and
whatever is declared or asked for afterwards, a visual component is registered with the tag by which
the check selected its elements. In a build that returns this is the tag that the declared names
give. -/
theorem tags_agree {registry : Registry} (hmade : registry.Made) :
    (∀ {page : Page} {facts checked : Facts}, examine page registry facts = (checked, none) →
      (∀ entry ∈ facts.components, ∃ descriptor reached,
        Reaches page registry facts facts.components entry descriptor reached) ∧
      ∀ (steps : List Step) (assembly : Assembly), ∃ emitted,
        (assembly.registerAll (steps.foldl Facts.after checked)).1.actions =
          assembly.actions ++ emitted ∧
        ∀ {name declaration descriptor reached},
          Reaches page registry facts facts.components (name, declaration) descriptor reached →
          descriptor.isVisual = true →
          ∀ {arguments tag}, .register name arguments tag ∈ emitted → ∃ word, tag = some word ∧
            matching page reached descriptor.name =
              (attachedTo page name word, (reached.classTag name).2) ∧
            (reached.classTag descriptor.name).1 = word) ∧
    ∀ {settings : Settings} {page : Page} {product : Product},
      Returns settings registry page product →
        ∀ {name arguments tag}, .register name arguments tag ∈ product.program.actions →
          ∃ descriptor, registry.resolve name = some descriptor ∧
            (descriptor.isVisual = true → tag = some (classTag name (declared page))) := by
  constructor
  · intro page facts checked h
    refine ⟨reaches_of_examineAll h, fun steps assembly => ?_⟩
    obtain ⟨blocks, hblocks, hactions, -⟩ :=
      assembly.registerAll_blocks (steps.foldl Facts.after checked)
    refine ⟨blocks.flatten, hactions, fun {name _ _ reached} hreaches hv {_ _} hmem => ?_⟩
    obtain ⟨-, htag⟩ := register_mem_blocks hblocks hmem
    refine ⟨_, htag.trans (tag_of_reaches hmade h hreaches hv steps), ?_⟩
    rw [hmade.name_of_resolve hreaches.known.2]
    exact ⟨rfl, rfl⟩
  · intro settings page product h name arguments tag hmem
    obtain ⟨⟨text, hread⟩, planned, log, written, hplan, rfl⟩ := h.planned
    obtain ⟨ht, hv⟩ := Page.isTree_ofMarkup hread
    obtain ⟨checked, hchecked⟩ := checked_of_plan ht hv hplan
    rw [hchecked.actions] at hmem
    obtain ⟨⟨declaration, hentry⟩, htag⟩ := register_mem_assemble hmem
    obtain ⟨descriptor, hr, hc⟩ := hchecked.complies _ hentry
    refine ⟨descriptor, hr, fun hvisual => ?_⟩
    rw [htag, Facts.tagOf, if_pos ((isVisual_of_complies hc).trans hvisual), hchecked.tags]

/-- The registry of two visual components with the same short name. -/
def twinRegistry : Registry :=
  (Registry.base.register ⟨"a.Box", .visual, []⟩).register ⟨"b.Box", .visual, []⟩

/-- A page that declares both. -/
def twinMarkup : String :=
  "<script data-slp-use=\"a.Box b.Box\"></script>"

/-- The settings of a build into a program as JSON. -/
def twinSettings : Settings :=
  ⟨.ofText "index.html", .native, none, none, [], none⟩

/-- The facts of a build in which only the first is declared. -/
def loneFacts : Facts :=
  (Facts.start .native []).declare "a.Box" [] ""

/-- Where the second component is declared after the check, the first keeps its short tag; where the
page declares both, it goes by its full name. -/
theorem tags_agree_twins :
    (∀ page arguments tag, .register "a.Box" arguments tag ∈ (Assembly.empty.registerAll
        ((examine page twinRegistry loneFacts).1.declare "b.Box" [] "")).1.actions →
      tag = some "Box") ∧
    ∃ page product, Returns twinSettings twinRegistry page product ∧
      .register "a.Box" none (some "a.Box") ∈ product.program.actions ∧
      classTag "a.Box" (declared page) = "a.Box" := by
  have hmade : twinRegistry.Made := (Registry.Made.base.register _).register _
  constructor
  · intro page arguments tag hmem
    have hpasses : examine page twinRegistry loneFacts =
        ((examine page twinRegistry loneFacts).1, none) := rfl
    obtain ⟨-, hregisters⟩ := (tags_agree hmade).1 hpasses
    obtain ⟨emitted, hactions, htags⟩ := hregisters [.declare "b.Box" [] ""] Assembly.empty
    obtain ⟨word, htag, -, hword⟩ := htags (.first rfl) rfl (hactions ▸ hmem)
    rw [htag, ← hword]
    decide +kernel
  · have hrun : ((Page.ofMarkup twinMarkup).toOption.any fun page =>
        (buildPage ⟨[], []⟩ twinSettings twinRegistry page false).result.toOption.any fun product =>
          product.program.actions.contains (.register "a.Box" none (some "a.Box"))) = true := by
      decide +kernel
    obtain ⟨page, product, hreturns, hregisters⟩ := exists_returns hrun
    have hmem := List.contains_iff_mem.1 hregisters
    obtain ⟨descriptor, hr, htag⟩ := (tags_agree hmade).2 hreturns hmem
    obtain rfl : ⟨"a.Box", .visual, []⟩ = descriptor := Option.some.inj hr
    exact ⟨page, product, hreturns, hmem, (Option.some.inj (htag rfl)).symm⟩

end PageCompiler.Build
