import PageCompiler.Proofs.Build.Verdict

/-!
# In which order elements are selected

The elements that a component attaches to come in two runs : first all with its class tag, and then
those that have only its full name among their classes, each run in document order. No element comes
twice. The two runs together are in document order just when no element of the second stands in
front of one of the first (`filter_append_filter_eq_iff`).

The order decides which violation of a rule is reported : that of the first element in this order
(`elementViolation?_eq_findSome?`), which need not be the first one of the page.
-/

namespace PageCompiler.Build

open Markup Component

/-- What one test chooses and behind it what another chooses, which exclude each other, is in the
order of the list just when nothing that the second chooses stands in front of anything that the
first does. -/
theorem filter_append_filter_eq_iff {α : Type} {p q : α → Bool} (hpq : ∀ a, q a → ¬p a) :
    ∀ list : List α, list.filter p ++ list.filter q = list.filter (fun a => p a || q a) ↔
      list.Pairwise fun a later => ¬(q a ∧ p later)
  | [] => by simp
  | a :: list => by
    have ih := filter_append_filter_eq_iff hpq list
    rw [List.pairwise_cons]
    by_cases hp : p a
    · have hall : ∀ later ∈ list, ¬(q a ∧ p later) := fun _ _ h => hpq a h.1 hp
      rw [List.filter_cons_of_pos hp, List.filter_cons_of_neg fun hq => hpq a hq hp,
        List.filter_cons_of_pos (by simp [hp]), List.cons_append, List.cons_inj_right, ih]
      exact (and_iff_right hall).symm
    by_cases hq : q a
    · rw [List.filter_cons_of_neg hp, List.filter_cons_of_pos hq,
        List.filter_cons_of_pos (by simp [hq])]
      by_cases hnone : ∀ later ∈ list, ¬p later
      · have hempty : list.filter p = [] := List.filter_eq_nil_iff.2 hnone
        rw [hempty, List.nil_append] at ih ⊢
        rw [List.cons_inj_right, ih]
        exact (and_iff_right fun later hmem h => hnone later hmem h.2).symm
      · -- what is chosen first begins with a later item, which is not this one
        have hsome : list.filter p ≠ [] := fun he => hnone (List.filter_eq_nil_iff.1 he)
        obtain ⟨first, rest, hfirst⟩ := List.exists_cons_of_ne_nil hsome
        have hpfirst : p first := List.of_mem_filter (hfirst ▸ List.mem_cons_self)
        rw [hfirst, List.cons_append]
        constructor
        · intro h
          exact absurd ((List.cons.inj h).1 ▸ hpfirst) hp
        · exact fun h => absurd (fun later hmem hl => h.1 later hmem ⟨hq, hl⟩) hnone
    · have hall : ∀ later ∈ list, ¬(q a ∧ p later) := fun _ _ h => hq h.1
      rw [List.filter_cons_of_neg hp, List.filter_cons_of_neg hq,
        List.filter_cons_of_neg (by simp [hp, hq]), ih]
      exact (and_iff_right hall).symm

/-- The violation of a rule that is reported on some elements is that of the first one that violates
it. -/
theorem elementViolation?_eq_findSome? (component : String) (elements : List Element)
    (rule : Rule) :
    elementViolation? component elements rule =
      elements.findSome? fun e => elementViolation? component [e] rule := by
  cases rule with
  | requiresAttributes names => simp only [elementViolation?, List.findSome?_singleton]
  | allowedTags names => simp only [elementViolation?, List.findSome?_singleton]

/-! ## Document order -/

/-- The elements with a class tag or a name among their classes, in document order. -/
def marked (page : Page) (name tag : String) : List Element :=
  page.root.children.elements.filter fun e => tag ∈ e.head.classes ∨ name ∈ e.head.classes

/-- The selected elements are the marked ones, each once. -/
theorem selected_perm_marked (page : Page) (name tag : String) :
    (selected page name tag).Perm (marked page name tag) := by
  have htagged : (marked page name tag).filter (fun e => tag ∈ e.head.classes) =
      page.root.children.elements.filter fun e => tag ∈ e.head.classes := by
    rw [marked, List.filter_filter]
    refine List.filter_congr fun e _ => ?_
    by_cases h : tag ∈ e.head.classes <;> simp [h]
  have hnamed : (marked page name tag).filter (fun e => !decide (tag ∈ e.head.classes)) =
      page.root.children.elements.filter fun e =>
        name ∈ e.head.classes ∧ tag ∉ e.head.classes := by
    rw [marked, List.filter_filter]
    refine List.filter_congr fun e _ => ?_
    by_cases h : tag ∈ e.head.classes <;> simp [h]
  rw [selected, ← htagged, ← hnamed]
  exact List.filter_append_perm _ _

/-- The selected elements are in document order just when none that has only the name stands in
front of one with the class tag. -/
theorem selected_eq_marked_iff (page : Page) (name tag : String) :
    selected page name tag = marked page name tag ↔
      page.root.children.elements.Pairwise fun e later =>
        ¬((name ∈ e.head.classes ∧ tag ∉ e.head.classes) ∧ tag ∈ later.head.classes) := by
  have hlist := filter_append_filter_eq_iff (p := fun e : Element => tag ∈ e.head.classes)
    (q := fun e => name ∈ e.head.classes ∧ tag ∉ e.head.classes) (by simp)
    page.root.children.elements
  simp only [decide_eq_true_eq] at hlist
  rw [← hlist, selected, marked]
  refine Eq.congr_right (List.filter_congr fun e _ => ?_)
  by_cases h : tag ∈ e.head.classes <;> simp [h]

/-- In a document that was read the numbers are in document order. -/
theorem pairwise_marked {text : String} {page : Page} (h : Page.ofMarkup text = .ok page)
    (name tag : String) :
    (marked page name tag).Pairwise fun e later => e.head.id < later.head.id := by
  obtain ⟨document, hparse, rfl⟩ := map_eq_ok h
  obtain ⟨-, ⟨count, hids⟩, -⟩ := numbered_of_parse hparse
  rw [Forest.ids, ← Forest.map_head_elements, List.map_map] at hids
  have hall : document.children.elements.Pairwise fun e later => e.head.id < later.head.id :=
    List.pairwise_map.1 (hids ▸ List.pairwise_lt_range')
  exact hall.sublist List.filter_sublist

/-- The elements that a component attaches to are those with its class tag or its name among their
classes, each once : first those with the class tag, in document order, and then those that have
only the name, in document order. So the whole is in document order just when none of the latter
stands in front of one of the former. A rule reports the violation of the first of these elements
that violates it. -/
theorem matching_ofMarkup {text : String} {page : Page} (h : Page.ofMarkup text = .ok page)
    (facts : Facts) (name : String) :
    (matching page facts name).1 = selected page name (facts.classTag name).1 ∧
      ((matching page facts name).1.map fun e => e.head.id).Nodup ∧
      (matching page facts name).1.Perm (marked page name (facts.classTag name).1) ∧
      ((marked page name (facts.classTag name).1).Pairwise fun e later =>
        e.head.id < later.head.id) ∧
      ((matching page facts name).1 = marked page name (facts.classTag name).1 ↔
        page.root.children.elements.Pairwise fun e later =>
          ¬((name ∈ e.head.classes ∧ (facts.classTag name).1 ∉ e.head.classes) ∧
            (facts.classTag name).1 ∈ later.head.classes)) ∧
      ∀ component rule, elementViolation? component (matching page facts name).1 rule =
        (matching page facts name).1.findSome? fun e => elementViolation? component [e] rule := by
  have hselected : (matching page facts name).1 = selected page name (facts.classTag name).1 :=
    attachedTo_eq_selected (Page.isTree_ofMarkup h).1 name _
  have hperm := selected_perm_marked page name (facts.classTag name).1
  have horder := pairwise_marked h name (facts.classTag name).1
  rw [hselected]
  refine ⟨rfl, ?_, hperm, horder, selected_eq_marked_iff page name _, fun component rule =>
    elementViolation?_eq_findSome? component _ rule⟩
  rw [(hperm.map _).nodup_iff]
  exact (List.pairwise_map.2 horder).imp Nat.ne_of_lt

/-- A page with an element by the full name between two by the class tag. -/
def stackMarkup : String :=
  "<ul class=Stack><li class=a.Stack id=x><b class='a.Stack Stack'></b></ul>"

/-- A component with a package. -/
def stackFacts : Facts :=
  (Facts.start .native []).declare "a.Stack" [] ""

theorem matching_ofMarkup_stack :
    ∃ page, Page.ofMarkup stackMarkup = .ok page ∧
      ((matching page stackFacts "a.Stack").1.map fun e => e.head.id) = [1, 3, 2] ∧
      (matching page stackFacts "a.Stack").1.Perm (marked page "a.Stack" "Stack") ∧
      elementViolation? "a.Stack" (matching page stackFacts "a.Stack").1
        (.requiresAttributes ["id"]) = some (.elementLacks "a.Stack" "id" "UL") := by
  have hrun : ((Page.ofMarkup stackMarkup).toOption.any fun page =>
      ((selected page "a.Stack" "Stack").map fun e => e.head.id) == [1, 3, 2] &&
      ((selected page "a.Stack" "Stack").findSome? fun e =>
        elementViolation? "a.Stack" [e] (.requiresAttributes ["id"])) ==
          some (.elementLacks "a.Stack" "id" "UL")) = true := by
    decide +kernel
  obtain ⟨page, hread, hresult⟩ := exists_ok_of_any hrun
  rw [Bool.and_eq_true, beq_iff_eq, beq_iff_eq] at hresult
  have htag : (stackFacts.classTag "a.Stack").1 = "Stack" := by decide +kernel
  obtain ⟨hselected, -, hperm, -, -, hfirst⟩ := matching_ofMarkup hread stackFacts "a.Stack"
  rw [htag] at hselected hperm
  refine ⟨page, hread, ?_, hperm, ?_⟩
  · rw [hselected, hresult.1]
  · rw [hfirst, hselected, hresult.2]

/-- An element by the full name stands in front of one by the class tag and is selected behind it,
so the violation that is reported is not the first one of the page. -/
theorem matching_not_in_order :
    ∃ page, Page.ofMarkup "<p class=a.Stack></p><div class=Stack></div>" = .ok page ∧
      ((marked page "a.Stack" (stackFacts.classTag "a.Stack").1).map fun e => e.head.id) =
        [1, 2] ∧
      ((matching page stackFacts "a.Stack").1.map fun e => e.head.id) = [2, 1] ∧
      elementViolation? "a.Stack" (matching page stackFacts "a.Stack").1
        (.requiresAttributes ["id"]) = some (.elementLacks "a.Stack" "id" "DIV") ∧
      elementViolation? "a.Stack" (marked page "a.Stack" (stackFacts.classTag "a.Stack").1)
        (.requiresAttributes ["id"]) = some (.elementLacks "a.Stack" "id" "P") := by
  have hrun : ((Page.ofMarkup "<p class=a.Stack></p><div class=Stack></div>").toOption.any
      fun page =>
        decide (((marked page "a.Stack" (stackFacts.classTag "a.Stack").1).map fun e =>
          e.head.id) = [1, 2] ∧
        ((matching page stackFacts "a.Stack").1.map fun e => e.head.id) = [2, 1] ∧
        elementViolation? "a.Stack" (matching page stackFacts "a.Stack").1
          (.requiresAttributes ["id"]) = some (.elementLacks "a.Stack" "id" "DIV") ∧
        elementViolation? "a.Stack" (marked page "a.Stack" (stackFacts.classTag "a.Stack").1)
          (.requiresAttributes ["id"]) = some (.elementLacks "a.Stack" "id" "P"))) = true := by
    decide +kernel
  obtain ⟨page, hread, hresult⟩ := exists_ok_of_any hrun
  exact ⟨page, hread, of_decide_eq_true hresult⟩

end PageCompiler.Build
