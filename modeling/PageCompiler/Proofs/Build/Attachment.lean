import PageCompiler.Proofs.Build.Verdict
import PageCompiler.Proofs.Component.ClassTag

/-!
# Elements of different components

The check selects the elements of a component by words of their class attribute, and no word selects
elements for two declared components (`tokens_apart`). An element that belongs to two of them has a
word for each.
-/

namespace PageCompiler.Build

open Component

/-- In a tree the check selects the elements with a token of the component. -/
theorem mem_matching_iff {page : Page} (ht : page.IsTree) {facts : Facts} {name : String}
    (hnew : facts.classTags.get? name = none) {element : Markup.Element} :
    element ∈ (matching page facts name).1 ↔ element ∈ page.root.children.elements ∧
      ∃ word ∈ tokens facts.components.keys name, word ∈ element.head.classes := by
  rw [matching, attachedTo_eq_selected ht, mem_selected, Facts.classTag_fst, hnew, tokens]
  simp only [Option.getD_none, List.mem_cons, List.not_mem_nil, or_false, exists_eq_or_imp,
    exists_eq_left]

/-- The tokens of two declared components have no word in common. They are the same however often
and in whatever order the components are declared, and they are what the check selects elements
by. -/
theorem tokens_apart (declared : List String) :
    (∀ {name other : String}, name ∈ declared → other ∈ declared → name ≠ other →
      (tokens declared name).Disjoint (tokens declared other)) ∧
    (∀ {again : List String}, (∀ name, name ∈ again ↔ name ∈ declared) →
      ∀ name, classTag name again = classTag name declared) ∧
    ∀ {text : String} {page : Page} {facts : Facts}, Page.ofMarkup text = .ok page →
      facts.components.keys = declared → ∀ {name : String}, facts.classTags.get? name = none →
        ∀ element, element ∈ (matching page facts name).1 ↔
          element ∈ page.root.children.elements ∧
            ∃ word ∈ tokens declared name, word ∈ element.head.classes := by
  refine ⟨disjoint_tokens, classTag_congr, ?_⟩
  intro text page facts hread hkeys name hnew element
  rw [mem_matching_iff (Page.isTree_ofMarkup hread).1 hnew, hkeys]

/-- A component whose short name is the full name of another, and one with a short name of its
own. -/
def boxNames : List String :=
  ["ui.Box", "Box", "a.b.Card"]

/-- An element for each. -/
def tokenMarkup : String :=
  "<p class=\"ui.Box big\"></p><p class=Box></p><p class=Card></p>"

theorem tokens_apart_box :
    boxNames.map (tokens boxNames) =
        [["ui.Box", "ui.Box"], ["Box", "Box"], ["Card", "a.b.Card"]] ∧
      (tokens boxNames "ui.Box").Disjoint (tokens boxNames "Box") ∧
      classTag "ui.Box" ["Box", "a.b.Card", "Box", "ui.Box"] = "ui.Box" ∧
      ∃ page, Page.ofMarkup tokenMarkup = .ok page ∧ ∃ element ∈ page.root.children.elements,
        element.head.classes = ["ui.Box", "big"] ∧
        element ∈ (matching page (boxNames.foldl (fun facts name => facts.declare name [] "")
          (.start .js [])) "ui.Box").1 := by
  have htokens : boxNames.map (tokens boxNames) =
      [["ui.Box", "ui.Box"], ["Box", "Box"], ["Card", "a.b.Card"]] := by decide +kernel
  have hrun : ((Page.ofMarkup tokenMarkup).toOption.any fun page =>
      page.root.children.elements.any fun element =>
        element.head.classes == ["ui.Box", "big"]) = true := by decide +kernel
  obtain ⟨page, hread, hresult⟩ := exists_ok_of_any hrun
  obtain ⟨element, hmem, hclasses⟩ := List.any_eq_true.1 hresult
  obtain ⟨hdisjoint, hcongr, hselects⟩ := tokens_apart boxNames
  refine ⟨htokens, hdisjoint (by decide) (by decide) (by decide), ?_, page, hread, element, hmem,
    eq_of_beq hclasses, ?_⟩
  · rw [hcongr (by simp [boxNames]; tauto)]
    decide +kernel
  · refine (hselects hread (by decide) (by decide) element).2 ⟨hmem, "ui.Box", by decide, ?_⟩
    rw [eq_of_beq hclasses]
    exact List.mem_cons_self

end PageCompiler.Build
