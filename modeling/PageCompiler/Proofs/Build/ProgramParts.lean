import Mathlib.Tactic.TFAE
import PageCompiler.Proofs.Build.Plan

/-!
# The parts of a built program

The program of a build that returns has a block of actions for every component that the page
declares, in the order of the first declarations, then the markup if the build embeds it, then the
launch (`parts_of_returns`).

Whether markup is embedded is decided three times : when it is put into the program, when the launch
is, and when the page goes into a file of its own. Packaging sets a flag in between, but one that
has no say in it (`Facts.Packages.embeds`), so the three decisions are one.
-/

namespace PageCompiler.Build

/-! ## Plans -/

/-- The facts of a plan are those that its program was assembled from, as far as the program
tells. -/
theorem Checked.parts {settings : Settings} {registry : Component.Registry} {page : Page}
    {planned : Plan} {checked : Facts} (h : Checked settings registry page planned checked) :
    planned.facts.target = settings.target ∧ planned.facts.components.keys = declared page ∧
      ∃ blocks, List.Forall₂ (IsBlock planned.facts) planned.facts.components blocks ∧
        planned.program.actions = blocks.flatten ++ embedding planned.page planned.facts ++
          [launching planned.facts] ++ starting planned.facts := by
  obtain ⟨hsettles, blocks, hblocks, hactions⟩ := actions_assemble planned.page checked
  have hpackages := packages_package settings (assemble planned.page checked).2
  rw [← h.facts] at hpackages
  have hcomponents := hpackages.components.trans hsettles.components
  have htarget := hpackages.target.trans hsettles.target
  have hembeds := hpackages.embeds.trans hsettles.embeds
  have hstart : planned.facts.hasFlag noAutoStart = checked.hasFlag noAutoStart :=
    (hpackages.hasFlag (by decide)).trans (hsettles.hasFlag _)
  refine ⟨htarget.trans h.target, hcomponents ▸ h.keys, blocks, ?_, ?_⟩
  · rw [hcomponents]
    exact hblocks.imp fun _ _ hb =>
      hb.congr (fun name => ((hpackages.isVisual name).trans (hsettles.isVisual name)).symm)
        fun name => ((hpackages.tags name).trans (hsettles.tags name)).symm
  · rw [h.actions, hactions, embedding, embedding, launching, launching, starting, starting,
      hembeds, htarget, hstart]

/-! ## Where the markup goes -/

theorem IsBlock.not_mem {facts : Facts} {entry : String × Declaration} {block : List Action}
    (h : IsBlock facts entry block) :
    .launchOnLoad ∉ block ∧ ∀ target literal, .embed target literal ∉ block := by
  cases h <;> simp

/-- No component embeds markup or waits for the page. -/
theorem not_mem_blocks {facts : Facts} {entries : List (String × Declaration)}
    {blocks : List (List Action)} (h : List.Forall₂ (IsBlock facts) entries blocks) :
    .launchOnLoad ∉ blocks.flatten ∧ ∀ target literal, .embed target literal ∉ blocks.flatten := by
  constructor
  · intro hmem
    obtain ⟨_, -, _, hblock, hmem⟩ := exists_block_of_mem h hmem
    exact hblock.not_mem.1 hmem
  · intro target literal hmem
    obtain ⟨_, -, _, hblock, hmem⟩ := exists_block_of_mem h hmem
    exact hblock.not_mem.2 target literal hmem

/-- Markup stays in the page of a script that does not ask for it. -/
theorem embeds_eq_false {facts : Facts} :
    facts.embeds = false ↔ facts.target = .js ∧ embedHtml ∉ facts.flags := by
  simp [Facts.embeds, Target.isJs, Facts.hasFlag]

theorem waits_iff {facts : Facts} :
    (facts.target.isJs && !facts.embeds) = true ↔ facts.embeds = false := by
  unfold Facts.embeds
  cases facts.target.isJs <;> simp

theorem isSome_pageArtifact? {page : Page} {facts : Facts} {settings : Settings} :
    (pageArtifact? page facts settings).isSome = true ↔ facts.embeds = false := by
  rw [← waits_iff, pageArtifact?]
  split
  · next hwaits => simp [hwaits]
  · next hwaits => simp [hwaits]

section

variable {facts : Facts} {page : Page} {entries : List (String × Declaration)}
  {blocks : List (List Action)} (h : List.Forall₂ (IsBlock facts) entries blocks)
include h

theorem launchOnLoad_mem_iff : .launchOnLoad ∈ blocks.flatten ++ embedding page facts ++
    [launching facts] ++ starting facts ↔ facts.embeds = false := by
  have hstart : .launchOnLoad ∉ starting facts := fun hmem => by cases eq_of_mem_starting hmem
  have hlaunch : .launchOnLoad = launching facts ↔ facts.embeds = false := by
    rw [← waits_iff, launching]
    split
    · next hwaits => exact iff_of_true rfl hwaits
    · next hwaits => exact iff_of_false (fun he => by cases he) hwaits
  simp only [List.mem_append, (not_mem_blocks h).1, mem_embedding, reduceCtorEq, and_false, hstart,
    List.mem_singleton, hlaunch, false_or, or_false]

theorem embed_not_mem_iff : (∀ target literal, .embed target literal ∉ blocks.flatten ++
    embedding page facts ++ [launching facts] ++ starting facts) ↔ facts.embeds = false := by
  have hlaunch : ∀ target literal, .embed target literal ≠ launching facts := by
    rcases launching_cases facts with hl | hl <;> simp [hl]
  have hstart : ∀ target literal, .embed target literal ∉ starting facts :=
    fun _ _ hmem => by cases eq_of_mem_starting hmem
  have hembed : (∀ target literal, .embed target literal ∉ embedding page facts) ↔
      facts.embeds = false := by
    constructor
    · exact fun hno => Bool.eq_false_iff.2 fun he => hno _ _ (mem_embedding.2 ⟨he, rfl⟩)
    · exact fun he _ _ hmem => Bool.false_ne_true (he.symm.trans (mem_embedding.1 hmem).1)
  simp only [List.mem_append, (not_mem_blocks h).2, hlaunch, hstart, List.mem_singleton, false_or,
    or_false, hembed]

/-- The program, the launch and the file of the page agree on whether the markup stays in the
page. -/
theorem markup_tfae {actions : List Action} (hactions : actions = blocks.flatten ++
      embedding page facts ++ [launching facts] ++ starting facts) (settings : Settings) :
    List.TFAE [.launchOnLoad ∈ actions, ∀ target literal, .embed target literal ∉ actions,
      (pageArtifact? page facts settings).isSome = true,
      facts.target = .js ∧ embedHtml ∉ facts.flags] := by
  rw [hactions]
  tfae_have 1 ↔ 2 := (launchOnLoad_mem_iff h).trans (embed_not_mem_iff h).symm
  tfae_have 2 ↔ 3 := (embed_not_mem_iff h).trans isSome_pageArtifact?.symm
  tfae_have 3 ↔ 4 := isSome_pageArtifact?.trans embeds_eq_false
  tfae_finish

end

/-! ## Builds -/

theorem starting_eq (facts : Facts) :
    starting facts = if noAutoStart ∈ facts.flags then [] else [.startInit] := by
  simp only [starting, Facts.hasFlag, List.contains_iff_mem]

/-- The program of a build that returns consists of a block for each component that the page
declares, in the order of the first declarations, of the embedded markup, and of the launch, which
starts the script unless a flag forbids it. It waits for the page, it embeds no markup, and the page
gets a file of its own, all just if the target is a script and no flag asks for embedded markup. -/
theorem parts_of_returns {settings : Settings} {registry : Component.Registry} {page : Page}
    {product : Product} (h : Returns settings registry page product) :
    ∃ planned log, plan settings registry page = (.ok planned, log) ∧
      product.program = planned.program ∧ product.page = planned.page ∧
      product.flags = planned.facts.flags ∧ planned.facts.components.keys = declared page ∧
      ∃ blocks, List.Forall₂ (IsBlock planned.facts) planned.facts.components blocks ∧
        product.program.actions = blocks.flatten ++ embedding product.page planned.facts ++
          [launching planned.facts] ++
            (if noAutoStart ∈ product.flags then [] else [.startInit]) ∧
        List.TFAE [.launchOnLoad ∈ product.program.actions,
          ∀ target literal, .embed target literal ∉ product.program.actions,
          (pageArtifact? product.page planned.facts settings).isSome = true,
          settings.target = .js ∧ embedHtml ∉ product.flags] := by
  obtain ⟨⟨text, hread⟩, planned, log, written, hplan, rfl⟩ := h.planned
  obtain ⟨ht, hv⟩ := Page.isTree_ofMarkup hread
  obtain ⟨checked, hchecked⟩ := checked_of_plan ht hv hplan
  obtain ⟨htarget, hkeys, blocks, hblocks, hactions⟩ := hchecked.parts
  have htfae := markup_tfae hblocks hactions settings
  rw [htarget] at htfae
  rw [starting_eq] at hactions
  exact ⟨planned, log, hplan, rfl, rfl, rfl, hkeys, blocks, hblocks, hactions, htfae⟩

/-- A page that declares a panel, with an attribute, and a service. -/
def panelMarkup : String :=
  "<script data-slp-use=\"ui.Panel app.Log\" data-a=b></script><p class=Panel>x"

/-- The registry of the panel and the service. -/
def panelRegistry : Component.Registry :=
  (Component.Registry.base.register ⟨"ui.Panel", .visual, []⟩).register ⟨"app.Log", .service, []⟩

/-- The settings of a build into a script. -/
def panelSettings : Settings :=
  ⟨.ofText "index.html", .js, none, none, [], none⟩

/-- The two blocks and the launch, which waits for the page. -/
def panelActions : List Action :=
  [.use "ui.Panel", .holdArguments "args0" [("data-a", "b")],
    .register "ui.Panel" (some "args0") (some "Panel"),
    .use "app.Log", .register "app.Log" none none, .launchOnLoad, .startInit]

theorem parts_of_returns_panel :
    ∃ page product, Returns panelSettings panelRegistry page product ∧
      product.program.actions = panelActions ∧ embedHtml ∉ product.flags ∧
      declared page = ["ui.Panel", "app.Log"] := by
  have hrun : ((Page.ofMarkup panelMarkup).toOption.any fun page =>
      (buildPage ⟨[], []⟩ panelSettings panelRegistry page false).result.toOption.any fun product =>
        product.program.actions = panelActions ∧ declared page = ["ui.Panel", "app.Log"]) = true := by
    decide +kernel
  obtain ⟨page, product, hreturns, hmade⟩ := exists_returns hrun
  obtain ⟨hactions, hdeclared⟩ := of_decide_eq_true hmade
  obtain ⟨planned, log, -, -, -, -, -, blocks, -, -, hagree⟩ := parts_of_returns hreturns
  have hwaits : .launchOnLoad ∈ product.program.actions := by
    rw [hactions]
    decide
  have hflag : panelSettings.target = .js ∧ embedHtml ∉ product.flags :=
    (hagree.out 0 3).1 hwaits
  exact ⟨page, product, hreturns, hactions, hflag.2, hdeclared⟩

end PageCompiler.Build
