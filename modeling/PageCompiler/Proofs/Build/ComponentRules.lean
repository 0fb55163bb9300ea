import PageCompiler.Proofs.Build.Plan
import PageCompiler.Proofs.Component.Registry

/-!
# Component rules of a build

The page of a build that returns satisfies the rules of every component that its program registers
(`rules_of_returns`). The phases meet in the facts that the program is assembled from (`Checked`) :
the declaration of a component is the one of the last script of the source that declares it, the
check has gone through all declarations on the page as it is in the end, and the program registers
just these, with the class tags of the check (`register_mem_assemble`).
-/

namespace PageCompiler.Build

open Markup Component

/-! ## What the program registers -/

/-- What the declaration of a script gives, the script gives. -/
theorem hasRequired_of_configuration {descriptor : Descriptor} {script : Head}
    (h : HasRequired descriptor (configuration script).get?) :
    HasRequired descriptor script.get? := by
  intro names hrule name hname
  obtain ⟨text, hvalue, htext⟩ := h names hrule name hname
  rw [get?_configuration] at hvalue
  split at hvalue
  · exact ⟨text, hvalue, htext⟩
  · cases hvalue

/-- The program that is assembled after the check registers checked components, each with the class
tag of the check. -/
theorem complies_of_register {page : Page} {registry : Registry} (hmade : registry.Made)
    {checked : Facts}
    (hall : ∀ entry ∈ checked.components, ∃ descriptor,
      registry.resolve entry.1 = some descriptor ∧ Complies page checked descriptor entry)
    {name : String} {arguments tag : Option String}
    (hmem : .register name arguments tag ∈ (assemble page checked).1.actions) :
    ∃ declaration, checked.components.get? name = some declaration ∧ ∃ descriptor,
      registry.resolve name = some descriptor ∧
        Complies page checked descriptor (name, declaration) ∧
        (descriptor.isVisual = true → tag = checked.classTags.get? descriptor.name) := by
  obtain ⟨⟨given, hentry⟩, htag⟩ := register_mem_assemble hmem
  obtain ⟨declaration, hget⟩ := Keyed.exists_get?_of_mem hentry
  obtain ⟨descriptor, hr, hc⟩ := hall (name, declaration) (Keyed.mem_of_get? hget)
  refine ⟨declaration, hget, descriptor, hr, hc, fun hv => ?_⟩
  have hname : descriptor.name = name := hmade.name_of_resolve hr
  obtain ⟨word, hword, -⟩ := hc.visual hv
  rw [hname] at hword ⊢
  rw [htag, Facts.tagOf, if_pos ((isVisual_of_complies hc).trans hv), Facts.classTag_fst, hword,
    Option.getD_some]

/-- A registered component was checked on the page as it is in the end, with the declaration of the
last script of the source that declares it. -/
theorem complies_of_plan {settings : Settings} {registry : Registry} (hmade : registry.Made)
    {page : Page} (ht : page.IsTree) (hv : page.root.children.VoidsEmpty) {planned : Plan}
    {log : Log} (h : plan settings registry page = (.ok planned, log)) {name : String}
    {arguments tag : Option String}
    (hmem : .register name arguments tag ∈ planned.program.actions) :
    planned.page.IsTree ∧ ∃ script, declarer? (scripts page) name = some script ∧
      ∃ descriptor, registry.resolve name = some descriptor ∧ ∃ checked : Facts,
        Complies planned.page checked descriptor (name, declarationAt script name) ∧
          (descriptor.isVisual = true → tag = checked.classTags.get? descriptor.name) := by
  obtain ⟨checked, hchecked⟩ := checked_of_plan ht hv h
  rw [hchecked.actions] at hmem
  obtain ⟨declaration, hget, descriptor, hr, hc, htag⟩ :=
    complies_of_register hmade hchecked.complies hmem
  obtain ⟨script, hscript, rfl⟩ :=
    Option.map_eq_some_iff.1 ((hchecked.get? name).symm.trans hget)
  exact ⟨hchecked.isTree, script, hscript, descriptor, hr, checked, hc, htag⟩

/-- The page of a build that returns satisfies the rules of every component that its program
registers : a visual one on every element with its class tag or its name among the classes, a
service on the last script of the source that declares it. -/
theorem rules_of_returns {settings : Settings} {registry : Registry} (hmade : registry.Made)
    {page : Page} {product : Product} (h : Returns settings registry page product) {name : String}
    {arguments tag : Option String}
    (hmem : .register name arguments tag ∈ product.program.actions) :
    ∃ descriptor, registry.resolve name = some descriptor ∧
      (descriptor.isVisual = true → ∃ word, tag = some word ∧
        ∀ element ∈ product.page.root.children.elements,
          word ∈ element.head.classes ∨ name ∈ element.head.classes →
            Satisfies descriptor element.head) ∧
      (descriptor.isVisual = false → ∃ script, declarer? (scripts page) name = some script ∧
        HasRequired descriptor script.get?) := by
  obtain ⟨⟨text, hread⟩, planned, log, hplan, hprogram, hpage⟩ := h.plan
  obtain ⟨ht, hv⟩ := Page.isTree_ofMarkup hread
  rw [hprogram] at hmem
  obtain ⟨htree, script, hscript, descriptor, hr, checked, hc, htag⟩ :=
    complies_of_plan hmade ht hv hplan hmem
  refine ⟨descriptor, hr, fun hvisual => ?_, fun hservice => ?_⟩
  · obtain ⟨word, hword, hsatisfied⟩ := hc.visual hvisual
    refine ⟨word, (htag hvisual).trans hword, fun element helement hclass => ?_⟩
    rw [hpage] at helement
    refine hsatisfied element (mem_attachedTo htree helement ?_)
    rwa [hmade.name_of_resolve hr]
  · exact ⟨script, hscript, hasRequired_of_configuration (hc.service hservice)⟩

/-- A page with a visual component and a service. -/
def boxMarkup : String :=
  "<p class=\"Box\" id=\"a\">x</p>" ++
    "<script data-slp-use=\"ui.Box app.Store\" data-key=\"k\"></script>"

/-- A visual type that asks for an attribute and a tag. -/
def boxType : Descriptor :=
  ⟨"ui.Box", .visual, [.requiresAttributes ["id"], .allowedTags ["p"]]⟩

/-- A service that asks for an attribute. -/
def storeType : Descriptor :=
  ⟨"app.Store", .service, [.requiresAttributes ["data-key"]]⟩

/-- The registry of both types. -/
def boxRegistry : Registry :=
  (Registry.base.register boxType).register storeType

/-- The settings of a build into a program as JSON. -/
def boxSettings : Settings :=
  ⟨.ofText "index.html", .native, none, none, [], none⟩

theorem rules_of_returns_box :
    ∃ page product, Returns boxSettings boxRegistry page product ∧
      (∀ element ∈ product.page.root.children.elements,
        "Box" ∈ element.head.classes ∨ "ui.Box" ∈ element.head.classes →
          Satisfies boxType element.head) ∧
      ∃ script, declarer? (scripts page) "app.Store" = some script ∧
        HasRequired storeType script.get? := by
  have hmade : boxRegistry.Made := (Registry.Made.base.register boxType).register storeType
  have hrun : ((Page.ofMarkup boxMarkup).toOption.any fun page =>
      (buildPage ⟨[], []⟩ boxSettings boxRegistry page false).result.toOption.any fun product =>
        product.program.actions.contains (.register "ui.Box" (some "args0") (some "Box")) &&
          product.program.actions.contains (.register "app.Store" none none)) = true := by
    decide +kernel
  cases hread : Page.ofMarkup boxMarkup with
  | error e =>
    rw [hread] at hrun
    cases hrun
  | ok page =>
    rw [hread] at hrun
    cases hbuilt : (buildPage ⟨[], []⟩ boxSettings boxRegistry page false).result with
    | error e => simp [Except.toOption, hbuilt] at hrun
    | ok product =>
      simp only [Except.toOption, hbuilt, Option.any_some, Bool.and_eq_true,
        List.contains_iff_mem] at hrun
      have hreturns : Returns boxSettings boxRegistry page product := .ofText hread hbuilt
      obtain ⟨found, hr, hbox, -⟩ := rules_of_returns hmade hreturns hrun.1
      obtain rfl : boxType = found := Option.some.inj hr
      obtain ⟨store, hr, -, hstore⟩ := rules_of_returns hmade hreturns hrun.2
      obtain rfl : storeType = store := Option.some.inj hr
      obtain ⟨word, hword, helements⟩ := hbox rfl
      obtain rfl := Option.some.inj hword
      exact ⟨page, product, hreturns, helements, hstore rfl⟩

end PageCompiler.Build
