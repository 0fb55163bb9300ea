import PageCompiler.Build.Run
import PageCompiler.Proofs.Build.Assembly
import PageCompiler.Proofs.Build.Compliance
import PageCompiler.Proofs.Build.Directives
import PageCompiler.Proofs.Results

/-!
# Builds that return

A build that returns has a plan, and its product is what was planned (`Returns.planned`). The plan
goes back to the phases one after the other (`examine_of_plan`). Its program is assembled from facts
about the components that the scripts of the source declare, with the class tags that their names
give, all of them checked on the page as it is in the end (`checked_of_plan`). Packaging changes
nothing that the program was assembled from (`packages_package`).
-/

namespace PageCompiler.Build

open Markup

/-! ## Plans -/

/-- What a plan is made of : the page and the declarations that were checked, and the program that
was assembled of them. -/
theorem examine_of_plan {settings : Settings} {registry : Component.Registry} {page : Page}
    {planned : Plan} {log : Log} (h : plan settings registry page = (.ok planned, log)) :
    ∃ directed scanned message checked,
      directed = followDirectives page (.start settings.target settings.defines) ∧
      scanned = readDeclarations directed.1 directed.2 ∧
      examine scanned.1 registry (scanned.2.say .info message) = (checked, none) ∧
      planned.page = scanned.1 ∧
      planned.program.actions = (assemble scanned.1 checked).1.actions ∧
      planned.facts = package settings (assemble scanned.1 checked).2 ∧
      planned.program.exposedName = planned.facts.exposedName := by
  unfold plan at h
  dsimp only at h
  split at h
  · cases h
  · next checked hexamined =>
    obtain ⟨hplanned, -⟩ := Prod.mk.inj h
    obtain rfl := Except.ok.inj hplanned
    exact ⟨_, _, _, checked, rfl, rfl, hexamined, rfl, rfl, rfl, rfl⟩

/-- The facts that the program of a plan is assembled from : they are about the target of the
settings and the components that the scripts of the page declare, components have the class tags
that their names give, and all of them were checked. -/
structure Checked (settings : Settings) (registry : Component.Registry) (page : Page)
    (planned : Plan) (checked : Facts) : Prop where
  isTree : planned.page.IsTree
  target : checked.target = settings.target
  keys : checked.components.keys = declared page
  get? : ∀ name, checked.components.get? name =
    (declarer? (scripts page) name).map (declarationAt · name)
  tags : ∀ name, (checked.classTag name).1 = Component.classTag name (declared page)
  complies : ∀ entry ∈ checked.components, ∃ descriptor,
    registry.resolve entry.1 = some descriptor ∧ Complies planned.page checked descriptor entry
  actions : planned.program.actions = (assemble planned.page checked).1.actions
  facts : planned.facts = package settings (assemble planned.page checked).2

theorem checked_of_plan {settings : Settings} {registry : Component.Registry} {page : Page}
    (ht : page.IsTree) (hv : page.root.children.VoidsEmpty) {planned : Plan} {log : Log}
    (h : plan settings registry page = (.ok planned, log)) :
    ∃ checked, Checked settings registry page planned checked := by
  obtain ⟨directed, scanned, message, checked, hdirected, hscanned, hexamined, hpage, hactions,
    hfacts, -⟩ := examine_of_plan h
  have hstart : (Facts.start settings.target settings.defines).components = [] := rfl
  have hkept := keepsScripts_followDirectives ht hv hstart
  have hdirectives := reads_followDirectives page (.start settings.target settings.defines)
  rw [← hdirected] at hkept hdirectives
  have hkeys := keys_readDeclarations hkept.isTree hkept.undeclared
  have hfound := get?_readDeclarations hkept.isTree hkept.undeclared
  have hreads := hdirectives.trans (reads_readDeclarations directed.1 directed.2)
  rw [declared, hkept.scripts_eq] at hkeys
  rw [hkept.scripts_eq] at hfound
  rw [← hscanned] at hkeys hfound hreads
  have hextends := extends_of_examine hexamined
  obtain ⟨hsame, hall⟩ := complies_of_examine hexamined
  rw [← hsame, ← hpage] at hall
  rw [← hpage] at hactions hfacts
  have hkeys : checked.components.keys = declared page := (congrArg Keyed.keys hsame).trans hkeys
  exact ⟨checked,
    { isTree := hpage ▸ (hfound "").1
      target := hextends.target.trans hreads.target
      keys := hkeys
      get? := fun name => (congrArg (Keyed.get? · name) hsame).trans (hfound name).2
      tags := fun name => by
        rw [hextends.tags, Facts.classTag_fst, ← hextends.components, hkeys]
        exact congrArg (fun tags => (Keyed.get? tags name).getD _) hreads.classTags
      complies := hall
      actions := hactions
      facts := hfacts }⟩

/-- A build that returns has a plan, and nothing is decided behind it. -/
theorem planned_of_buildPage {disk : Disk} {settings : Settings} {registry : Component.Registry}
    {page : Page} {write : Bool} {product : Product}
    (h : (buildPage disk settings registry page write).result = .ok product) :
    ∃ planned log written, plan settings registry page = (.ok planned, log) ∧
      product = ⟨planned.program, planned.page, planned.facts.flags, planned.facts.exposedName,
        planned.facts.warnings, written⟩ := by
  unfold buildPage at h
  split at h
  · cases h
  · next planned log hplan =>
    dsimp only at h
    split at h
    · obtain ⟨written, -, rfl⟩ := map_eq_ok h
      exact ⟨planned, log, written, hplan, rfl⟩
    · obtain rfl := Except.ok.inj h
      exact ⟨planned, log, [], hplan, rfl⟩

/-! ## Packaging -/

/-- Later facts differ in the flag of every script, the exposed name, warnings and what was said. -/
structure Facts.Packages (facts later : Facts) : Prop extends Facts.Reads facts later where
  components : later.components = facts.components
  hasFlag : ∀ {name}, name ≠ jsModern → later.hasFlag name = facts.hasFlag name

theorem hasFlag_setFlag (facts : Facts) {name other : String} (hne : other ≠ name) :
    (facts.setFlag name).hasFlag other = facts.hasFlag other := by
  rw [Facts.hasFlag, Facts.hasFlag, Bool.eq_iff_iff, List.contains_iff_mem, List.contains_iff_mem,
    Facts.mem_flags_setFlag, or_iff_left hne.symm]

theorem packages_package (settings : Settings) (facts : Facts) :
    facts.Packages (package settings facts) := by
  have hflag : facts.Packages (facts.setFlag jsModern) :=
    ⟨facts.reads_setFlag _, components_setFlag facts _, hasFlag_setFlag facts⟩
  unfold package
  split
  · exact ⟨.refl facts, rfl, fun _ => rfl⟩
  · dsimp only
    split
    · exact { hflag with }
    · split <;> exact { hflag with }

namespace Facts.Packages

variable {facts later : Facts}

theorem isVisual (h : facts.Packages later) (name : String) :
    later.isVisual name = facts.isVisual name := by
  rw [Facts.isVisual, h.descriptors]
  rfl

theorem tags (h : facts.Packages later) (name : String) :
    (later.classTag name).1 = (facts.classTag name).1 := by
  rw [Facts.classTag_fst, Facts.classTag_fst, h.classTags, h.components]

theorem embeds (h : facts.Packages later) : later.embeds = facts.embeds := by
  rw [Facts.embeds, Facts.embeds, h.target, h.hasFlag (by decide)]

end Facts.Packages

/-- The target is that of the settings, whatever the page is. -/
theorem target_of_plan {settings : Settings} {registry : Component.Registry} {page : Page}
    {planned : Plan} {log : Log} (h : plan settings registry page = (.ok planned, log)) :
    planned.facts.target = settings.target := by
  obtain ⟨directed, scanned, message, checked, hdirected, hscanned, hexamined, -, -, hfacts, -⟩ :=
    examine_of_plan h
  have hdirectives := reads_followDirectives page (.start settings.target settings.defines)
  rw [← hdirected] at hdirectives
  have hreads := hdirectives.trans (reads_readDeclarations directed.1 directed.2)
  rw [← hscanned] at hreads
  have hassembled := (actions_assemble scanned.1 checked).1.target
  have hpackaged := (packages_package settings (assemble scanned.1 checked).2).target
  rw [hfacts, hpackaged, hassembled]
  exact (extends_of_examine hexamined).target.trans hreads.target

/-! ## Builds -/

/-- A page that was loaded is the page of some text. -/
theorem ofMarkup_of_loadPage {disk : Disk} {path : Path} {shown : String} {page : Page}
    (h : loadPage disk path shown = .ok page) : ∃ text, Page.ofMarkup text = .ok page := by
  unfold loadPage at h
  split at h
  · cases h
  · cases h
  · split at h
    · cases h
    · split at h
      · cases h
      · next text _ =>
        refine ⟨text, ?_⟩
        cases hpage : Page.ofMarkup text with
        | error e =>
          rw [hpage] at h
          cases h
        | ok read =>
          rw [hpage] at h
          exact congrArg _ (Except.ok.inj h)

/-- The builds that return, with the page they start from : the page of a text, or the page that the
settings name. -/
inductive Returns (settings : Settings) (registry : Component.Registry) (page : Page)
    (product : Product) : Prop
  | ofText {disk : Disk} {text : String} {write : Bool} (read : Page.ofMarkup text = .ok page)
      (built : (buildPage disk settings registry page write).result = .ok product)
  | ofSource {disk : Disk} {write : Bool}
      (read : loadPage disk settings.source settings.source.text = .ok page)
      (built : (build disk settings registry write).result = .ok product)

/-- A build of a given text that returns, found by running it. -/
theorem exists_returns {settings : Settings} {registry : Component.Registry} {text : String}
    {p : Page → Product → Bool} (h : ((Page.ofMarkup text).toOption.any fun page =>
      (buildPage ⟨[], []⟩ settings registry page false).result.toOption.any (p page)) = true) :
    ∃ page product, Returns settings registry page product ∧ p page product = true := by
  obtain ⟨page, hread, hany⟩ := exists_ok_of_any h
  obtain ⟨product, hbuilt, hp⟩ := exists_ok_of_any hany
  exact ⟨page, product, .ofText hread hbuilt, hp⟩

namespace Returns

variable {settings : Settings} {registry : Component.Registry} {page : Page} {product : Product}

/-- The page is the page of some text, and the product is what was planned for it. -/
theorem planned (h : Returns settings registry page product) :
    (∃ text, Page.ofMarkup text = .ok page) ∧
      ∃ planned log written, Build.plan settings registry page = (.ok planned, log) ∧
        product = ⟨planned.program, planned.page, planned.facts.flags, planned.facts.exposedName,
          planned.facts.warnings, written⟩ := by
  cases h with
  | ofText read built => exact ⟨⟨_, read⟩, planned_of_buildPage built⟩
  | ofSource read built =>
    rw [build, read] at built
    dsimp only at built
    exact ⟨ofMarkup_of_loadPage read, planned_of_buildPage built⟩

theorem plan (h : Returns settings registry page product) :
    (∃ text, Page.ofMarkup text = .ok page) ∧
      ∃ planned log, Build.plan settings registry page = (.ok planned, log) ∧
        product.program = planned.program ∧ product.page = planned.page := by
  obtain ⟨htext, planned, log, written, hplan, rfl⟩ := h.planned
  exact ⟨htext, planned, log, hplan, rfl, rfl⟩

end Returns

end PageCompiler.Build
