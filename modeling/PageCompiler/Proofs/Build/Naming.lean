import PageCompiler.Proofs.Build.Classification
import PageCompiler.Proofs.Build.Plan

/-!
# Exposed name, flags and warnings of a build

They are settled in two places. The directives of the page set flags and ask for an exposed name.
Packaging adds the flag of every script and chooses the exposed name, long after; what stands
between leaves all of this alone (`Facts.HandsOn`, `handsOn_assemble`). So the choice depends on the
settings and on the page as it was read, whatever the components are (`naming_of_returns`).
-/

namespace PageCompiler.Build

open Markup

/-! ## Between the directives and packaging -/

/-- Later facts have the same flags, exposed name and warnings. -/
structure Facts.HandsOn (facts later : Facts) : Prop where
  target : later.target = facts.target
  flags : later.flags = facts.flags
  exposedNameOverride : later.exposedNameOverride = facts.exposedNameOverride
  exposedName : later.exposedName = facts.exposedName
  warnings : later.warnings = facts.warnings

namespace Facts.HandsOn

variable {facts later last : Facts}

theorem refl (facts : Facts) : HandsOn facts facts :=
  ⟨rfl, rfl, rfl, rfl, rfl⟩

theorem trans (h : HandsOn facts later) (hl : HandsOn later last) : HandsOn facts last where
  target := hl.target.trans h.target
  flags := hl.flags.trans h.flags
  exposedNameOverride := hl.exposedNameOverride.trans h.exposedNameOverride
  exposedName := hl.exposedName.trans h.exposedName
  warnings := hl.warnings.trans h.warnings

theorem foldl {σ ι : Type} (facts : σ → Facts) {step : σ → ι → σ}
    (hstep : ∀ state item, HandsOn (facts state) (facts (step state item))) (items : List ι)
    (state : σ) : HandsOn (facts state) (facts (items.foldl step state)) :=
  items.foldlRecOn (motive := fun later => HandsOn (facts state) (facts later)) step
    (.refl (facts state)) fun later h item _ => h.trans (hstep later item)

/-- Settling class tags changes nothing of it. -/
theorem of_settles (h : facts.Settles later) : HandsOn facts later := by
  rw [h.others]
  exact ⟨rfl, rfl, rfl, rfl, rfl⟩

end Facts.HandsOn

theorem handsOn_declareAt (head : Head) (facts : Facts) (name : String) :
    facts.HandsOn (Facts.declareAt head facts name) := by
  unfold Facts.declareAt
  split
  · exact ⟨rfl, rfl, rfl, rfl, rfl⟩
  · exact ⟨rfl, rfl, rfl, rfl, rfl⟩

theorem handsOn_readScript (state : Page × Facts) (number : Nat) :
    state.2.HandsOn (readScript state number).2 := by
  unfold readScript
  split
  · exact .refl state.2
  · exact Facts.HandsOn.foldl id (handsOn_declareAt _) _ state.2

theorem handsOn_readDeclarations (page : Page) (facts : Facts) :
    facts.HandsOn (readDeclarations page facts).2 :=
  Facts.HandsOn.foldl Prod.snd handsOn_readScript _ (page, facts)

theorem handsOn_examineAll (page : Page) (registry : Component.Registry) :
    ∀ (entries : List (String × Declaration)) (facts : Facts),
      facts.HandsOn (examineAll page registry facts entries).1
  | [], facts => .refl facts
  | (name, declaration) :: entries, facts => by
    rw [examineAll]
    split
    · exact .refl facts
    · next descriptor _ =>
      have hknown : facts.HandsOn
          { facts with descriptors := facts.descriptors.put name descriptor } :=
        ⟨rfl, rfl, rfl, rfl, rfl⟩
      have hchecked := hknown.trans
        (.of_settles (settles_examineComponent page _ descriptor declaration))
      dsimp only
      split
      · next checked violation hexamined =>
        rw [hexamined] at hchecked
        exact hchecked
      · next checked hexamined =>
        rw [hexamined] at hchecked
        exact hchecked.trans (handsOn_examineAll page registry entries checked)

theorem handsOn_examine (page : Page) (registry : Component.Registry) (facts : Facts) :
    facts.HandsOn (examine page registry facts).1 :=
  handsOn_examineAll page registry facts.components facts

theorem handsOn_assemble (page : Page) (facts : Facts) :
    facts.HandsOn (assemble page facts).2 :=
  .of_settles (actions_assemble page facts).1

/-- A build packages what the directives of its page have told. -/
theorem handsOn_of_plan {settings : Settings} {registry : Component.Registry} {page : Page}
    {planned : Plan} {log : Log} (h : plan settings registry page = (.ok planned, log)) :
    ∃ facts, (followDirectives page (.start settings.target settings.defines)).2.HandsOn facts ∧
      planned.facts = package settings facts ∧
      planned.program.exposedName = planned.facts.exposedName := by
  obtain ⟨directed, scanned, message, checked, hdirected, hscanned, hexamined, -, -, hfacts,
    hname⟩ := examine_of_plan h
  have hread := handsOn_readDeclarations directed.1 directed.2
  have htold := hread.trans (.of_settles (.say _ .info message))
  rw [← hscanned] at htold
  have hchecked := htold.trans (handsOn_examine scanned.1 registry _)
  rw [hexamined, hdirected] at hchecked
  exact ⟨_, hchecked.trans (handsOn_assemble scanned.1 checked), hfacts, hname⟩

/-! ## Packaging -/

/-- What is said when a name given from outside is kept. -/
def keptNameMessage (name : String) : String :=
  "Exposed name already set to " ++ name ++ ", keeping it"

/-- The first name that is given and not empty, or else the last resort. -/
def firstName (names : List (Option String)) (resort : String) : String :=
  ((names.filterMap id).find? fun name => name ≠ "").getD resort

theorem firstName_cons (name : Option String) (names : List (Option String)) (resort : String) :
    firstName (name :: names) resort =
      if name.getD "" ≠ "" then name.getD "" else firstName names resort := by
  cases name with
  | none => rfl
  | some name =>
    by_cases hempty : name = "" <;> simp [firstName, hempty]

/-- The exposed name of a script : the one from outside, or the one the page asks for, or the name
of the output. -/
def Settings.chosenName (settings : Settings) (asked : Option String) : String :=
  firstName [settings.exposedName, asked] (directoryAndBase settings.outputPath).2

theorem package_of_js (settings : Settings) {facts : Facts} (htarget : facts.target = .js) :
    (package settings facts).flags = (facts.setFlag jsModern).flags ∧
      (package settings facts).exposedName =
        some (settings.chosenName facts.exposedNameOverride) ∧
      (package settings facts).warnings = facts.warnings ++
        if settings.exposedName.getD "" = "" then []
        else [keptNameMessage (settings.exposedName.getD "")] := by
  have hjs : ¬(!facts.target.isJs) = true := by simp [htarget, Target.isJs]
  have hflagged := congrArg Facts.warnings (facts.setFlag_eq jsModern)
  rw [package, if_neg hjs, Settings.chosenName, firstName_cons, firstName_cons]
  dsimp only
  by_cases hgiven : settings.exposedName.getD "" = ""
  · rw [if_neg (not_not_intro hgiven), if_pos hgiven, if_neg (not_not_intro hgiven),
      List.append_nil]
    by_cases hasked : facts.exposedNameOverride.getD "" = ""
    · rw [if_neg (not_not_intro hasked), if_neg (not_not_intro hasked)]
      exact ⟨rfl, rfl, hflagged⟩
    · rw [if_pos hasked, if_pos hasked]
      refine ⟨rfl, ?_, hflagged⟩
      obtain ⟨name, hname⟩ : ∃ name, facts.exposedNameOverride = some name :=
        Option.ne_none_iff_exists'.1 fun hnone => hasked (hnone ▸ rfl)
      rw [hname]
      rfl
  · rw [if_pos hgiven, if_neg hgiven, if_pos hgiven]
    exact ⟨rfl, rfl, congrArg (· ++ _) hflagged⟩

theorem package_of_native (settings : Settings) {facts : Facts}
    (htarget : facts.target = .native) : package settings facts = facts := by
  rw [package, htarget]
  rfl

/-! ## Directives -/

/-- The exposed names that a page asks for, in document order. -/
def askedNames (page : Page) : List String :=
  ((metas page).filter fun head => AsksName head ∧
    Text.isBlankText (content head) = false).map fun head => Text.strip (content head)

/-- The elements that ask for a blank name, in document order. -/
def blankRequests (page : Page) : List Head :=
  (metas page).filter fun head => AsksName head ∧ Text.isBlankText (content head) = true

theorem exposedName_followHead (facts : Facts) (head : Head) :
    (followHead facts head).exposedName = facts.exposedName := by
  unfold followHead
  split
  · rfl
  · next directive _ =>
    cases directive with
    | flag name =>
      dsimp only [Facts.follow]
      rw [Facts.setFlag_eq]
      rfl
    | exposedName name => cases name <;> rfl
    | parameter name value => rfl

/-- No directive settles the exposed name. -/
theorem exposedName_foldl_followHead (heads : List Head) (facts : Facts) :
    (heads.foldl followHead facts).exposedName = facts.exposedName :=
  heads.foldlRecOn (motive := fun later => later.exposedName = facts.exposedName) followHead rfl
    fun later h head _ => (exposedName_followHead later head).trans h

/-! ## Builds -/

/-- Exposed name, flags and warnings of a build that returns. A script has the exposed name that was
given from outside, or the last one that its page asks for, or the name of the output file; it has
the flag of every script; each blank name in the page gives a warning, and so does a name from
outside, after them. The other target has no name, no flag of its own and no warning. -/
theorem naming_of_returns {settings : Settings} {registry : Component.Registry} {page : Page}
    {product : Product} (h : Returns settings registry page product) :
    product.program.exposedName = product.exposedName ∧
    (settings.target = .js →
      product.exposedName = some (settings.chosenName (askedNames page).getLast?) ∧
      (∀ flag, flag ∈ product.flags ↔
        flag ∈ settings.defines ∨ (∃ head ∈ metas page, SetsFlag head flag) ∨ flag = jsModern) ∧
      product.warnings = (blankRequests page).map (fun _ => blankNameMessage) ++
        if settings.exposedName.getD "" = "" then []
        else [keptNameMessage (settings.exposedName.getD "")]) ∧
    (settings.target = .native →
      product.exposedName = none ∧
      (∀ flag, flag ∈ product.flags ↔
        flag ∈ settings.defines ∨ ∃ head ∈ metas page, SetsFlag head flag) ∧
      product.warnings = []) := by
  obtain ⟨⟨text, hread⟩, planned, log, written, hplan, rfl⟩ := h.planned
  obtain ⟨facts, hands, hpackaged, hsame⟩ := handsOn_of_plan hplan
  have htarget : facts.target = settings.target :=
    hands.target.trans (reads_followDirectives page _).target
  rw [facts_followDirectives (Page.isTree_ofMarkup hread).1] at hands
  have hflags : ∀ flag, flag ∈ facts.flags ↔
      flag ∈ settings.defines ∨ ∃ head ∈ metas page, SetsFlag head flag := fun flag => by
    rw [hands.flags, mem_flags_foldl_followHead, Facts.start, List.mem_eraseDups]
  refine ⟨hsame, fun hjs => ?_, fun hnative => ?_⟩
  · obtain ⟨hmodern, hname, hwarnings⟩ := package_of_js settings (htarget.trans hjs)
    rw [hpackaged, hmodern, hname, hwarnings, hands.exposedNameOverride, hands.warnings,
      exposedNameOverride_foldl_followHead _ hjs, warnings_foldl_followHead _ hjs]
    refine ⟨?_, fun flag => ?_, rfl⟩
    · rw [askedNames, List.getLast?_map]
      exact congrArg (fun asked => some (settings.chosenName asked)) Option.or_none
    · rw [Facts.mem_flags_setFlag, hflags, or_assoc, eq_comm (a := flag)]
  · rw [hpackaged, package_of_native settings (htarget.trans hnative), hands.exposedName,
      exposedName_foldl_followHead, hands.warnings]
    exact ⟨rfl, hflags, (foldl_followHead_of_native _ hnative).2⟩

/-- A page that asks for two exposed names and for two blank ones, and makes a flag of the name
that asks. -/
def bannerMarkup : String :=
  "<meta name=jsExposedName><meta name=jsExposedName content=' one '>" ++
    "<meta name=jsExposedName content=compile-flag><meta name=jsExposedName content=' two '>" ++
    "<meta name=jsExposedName content=' '>"

/-- The settings of a build for a target with a name from outside. -/
def bannerSettings (target : Target) (name : Option String) : Settings :=
  ⟨.ofText "index.html", target, some "out/app.js", name, ["d"], none⟩

/-- An empty name from outside leaves the choice to the page and gives no warning; any other wins
and gives one more. -/
theorem naming_of_returns_banner :
    (∃ page product, Returns (bannerSettings .js (some "")) .base page product ∧
      product.program.exposedName = some "two" ∧ product.exposedName = some "two" ∧
      (∀ flag ∈ ["d", "jsExposedName", "js_modern"], flag ∈ product.flags) ∧
      product.warnings = [blankNameMessage, blankNameMessage]) ∧
    (∃ page product, Returns (bannerSettings .js (some "shell")) .base page product ∧
      product.exposedName = some "shell" ∧
      product.warnings = [blankNameMessage, blankNameMessage,
        "Exposed name already set to shell, keeping it"]) ∧
    ∃ page product, Returns (bannerSettings .native (some "shell")) .base page product ∧
      product.exposedName = none ∧ "js_modern" ∉ product.flags ∧ product.warnings = [] := by
  have hrun : ∀ target ∈ [Target.js, .native], ∀ name ∈ ["", "shell"],
      ((Page.ofMarkup bannerMarkup).toOption.any fun page =>
        (buildPage ⟨[], []⟩ (bannerSettings target (some name)) .base page
          false).result.toOption.any fun _ => decide (
          (askedNames page).getLast? = some "two" ∧ (blankRequests page).length = 2 ∧
          (∃ head ∈ metas page, SetsFlag head "jsExposedName") ∧
          ¬∃ head ∈ metas page, SetsFlag head "js_modern")) = true := by
    decide +kernel
  have hblank : ∀ {page : Page}, (blankRequests page).length = 2 →
      (blankRequests page).map (fun _ => blankNameMessage) =
        [blankNameMessage, blankNameMessage] := fun hlength => by
    rw [List.map_const', hlength]
    rfl
  refine ⟨?_, ?_, ?_⟩
  · obtain ⟨page, product, hreturns, hasked⟩ :=
      exists_returns (hrun .js (by decide) "" (by decide))
    obtain ⟨hlast, hlength, hset, -⟩ := of_decide_eq_true hasked
    obtain ⟨hsame, hjs, -⟩ := naming_of_returns hreturns
    obtain ⟨hname, hflags, hwarnings⟩ := hjs rfl
    have hchosen : product.exposedName = some "two" := by
      rw [hname, hlast]
      decide
    refine ⟨page, product, hreturns, hsame.trans hchosen, hchosen, fun flag hflag => ?_,
      hwarnings.trans (by rw [hblank hlength]; rfl)⟩
    rw [hflags]
    simp only [List.mem_cons, List.not_mem_nil, or_false] at hflag
    rcases hflag with rfl | rfl | rfl
    · exact .inl (by decide)
    · exact .inr (.inl hset)
    · exact .inr (.inr rfl)
  · obtain ⟨page, product, hreturns, hasked⟩ :=
      exists_returns (hrun .js (by decide) "shell" (by decide))
    obtain ⟨hlast, hlength, -⟩ := of_decide_eq_true hasked
    obtain ⟨-, hjs, -⟩ := naming_of_returns hreturns
    obtain ⟨hname, -, hwarnings⟩ := hjs rfl
    exact ⟨page, product, hreturns, hname.trans (by rw [hlast]; decide),
      hwarnings.trans (by rw [hblank hlength]; rfl)⟩
  · obtain ⟨page, product, hreturns, hasked⟩ :=
      exists_returns (hrun .native (by decide) "shell" (by decide))
    obtain ⟨-, -, -, hunset⟩ := of_decide_eq_true hasked
    obtain ⟨-, -, hnative⟩ := naming_of_returns hreturns
    obtain ⟨hname, hflags, hwarnings⟩ := hnative rfl
    refine ⟨page, product, hreturns, hname, fun hflag => ?_, hwarnings⟩
    exact ((hflags _).1 hflag).elim (by decide) hunset

end PageCompiler.Build
