import PageCompiler.Proofs.Build.Compliance
import PageCompiler.Proofs.Component.Registry
import PageCompiler.Proofs.Keyed

/-!
# The verdict of the check

All that is wrong with the declared components of a page can be listed : declaration by declaration,
rule by rule, element by element and attribute by attribute (`failures`). The check ends with the
first entry of that list, and passes just when there is none (`examine_of_isTree`). By then it has
found out the types of the declarations that it came to, and has settled the class tags of the
visual ones among them.

The list says nothing about how the check goes on its way. The class tag of a component is the one
that the declared names give, whatever was settled before, since checking settles no other tag.
-/

namespace PageCompiler.Build

open Markup Component

instance (value : Option String) : Decidable (IsGiven value) :=
  decidable_of_iff _ (isGiven_iff value).symm

/-! ## All that is wrong -/

/-- The elements that a component with this name and class tag attaches to : those with the class
tag, and then those that have only the name among their classes. -/
def selected (page : Page) (name tag : String) : List Element :=
  (page.root.children.elements.filter fun e => tag ∈ e.head.classes) ++
    page.root.children.elements.filter fun e => name ∈ e.head.classes ∧ tag ∉ e.head.classes

/-- What a rule of a visual component finds wrong with some elements. -/
def elementFailures (component : String) (elements : List Element) : Rule → List Violation
  | .requiresAttributes names =>
    elements.flatMap fun e => names.flatMap fun name =>
      if IsGiven (e.head.get? name) then []
      else [.elementLacks component name (Text.upper e.head.tag)]
  | .allowedTags names =>
    elements.flatMap fun e =>
      if Text.upper e.head.tag ∈ names.map Text.upper then []
      else [.wrongTag component (Text.upper e.head.tag) names]

/-- What a rule of a service finds wrong with its declaration. -/
def declarationFailures (component : String) (declaration : Declaration) : Rule → List Violation
  | .requiresAttributes names =>
    names.flatMap fun name =>
      if IsGiven (declaration.attributes.get? name) then []
      else [.declarationLacks component name declaration.site]
  | .allowedTags _ => []

/-- What the rules of a known component find wrong. -/
def ruleFailures (page : Page) (tag : String) (descriptor : Descriptor)
    (entry : String × Declaration) : List Violation :=
  if descriptor.isVisual then
    descriptor.rules.flatMap (elementFailures entry.1 (selected page entry.1 tag))
  else descriptor.rules.flatMap (declarationFailures entry.1 entry.2)

/-- What is wrong with a declared component, given the names of all of them. -/
def entryFailures (page : Page) (registry : Registry) (declared : List String)
    (entry : String × Declaration) : List Violation :=
  match registry.resolve entry.1 with
  | none => [.unknownType entry.1]
  | some descriptor => ruleFailures page (classTag entry.1 declared) descriptor entry

/-- All that is wrong with the declared components. -/
def failures (page : Page) (registry : Registry) (components : Keyed Declaration) :
    List Violation :=
  components.flatMap (entryFailures page registry components.keys)

/-! ## Nothing wrong -/

/-- A declared component conforms to its type : if it is visual, the rules hold on every element
with its class tag or its name among the classes, and if it is a service, on its declaration. -/
structure Conforms (page : Page) (tag : String) (descriptor : Descriptor)
    (entry : String × Declaration) : Prop where
  visual : descriptor.isVisual = true → ∀ e ∈ page.root.children.elements,
    tag ∈ e.head.classes ∨ entry.1 ∈ e.head.classes → Satisfies descriptor e.head
  service : descriptor.isVisual = false → HasRequired descriptor entry.2.attributes.get?

section

variable {page : Page} {registry : Registry}

theorem mem_selected {name tag : String} {e : Element} :
    e ∈ selected page name tag ↔ e ∈ page.root.children.elements ∧
      (tag ∈ e.head.classes ∨ name ∈ e.head.classes) := by
  simp only [selected, List.mem_append, List.mem_filter, decide_eq_true_eq]
  by_cases h : tag ∈ e.head.classes <;> simp [h]

theorem elementFailures_eq_nil {component : String} {elements : List Element}
    {descriptor : Descriptor} :
    descriptor.rules.flatMap (elementFailures component elements) = [] ↔
      ∀ e ∈ elements, Satisfies descriptor e.head := by
  rw [List.flatMap_eq_nil_iff]
  constructor
  · intro h e he
    refine ⟨fun names hrule name hname => ?_, fun names hrule => ?_⟩
    · have hall := List.flatMap_eq_nil_iff.1 (h _ hrule) e he
      have hnone := List.flatMap_eq_nil_iff.1 hall name hname
      by_contra hgiven
      rw [if_neg hgiven] at hnone
      cases hnone
    · have hnone := List.flatMap_eq_nil_iff.1 (h _ hrule) e he
      by_contra hallowed
      rw [if_neg hallowed] at hnone
      cases hnone
  · intro h rule hrule
    cases rule with
    | requiresAttributes names =>
      refine List.flatMap_eq_nil_iff.2 fun e he => List.flatMap_eq_nil_iff.2 fun name hname => ?_
      exact if_pos ((h e he).required names hrule name hname)
    | allowedTags names =>
      exact List.flatMap_eq_nil_iff.2 fun e he => if_pos ((h e he).allowed names hrule)

theorem declarationFailures_eq_nil {component : String} {declaration : Declaration}
    {descriptor : Descriptor} :
    descriptor.rules.flatMap (declarationFailures component declaration) = [] ↔
      HasRequired descriptor declaration.attributes.get? := by
  rw [List.flatMap_eq_nil_iff]
  constructor
  · intro h names hrule name hname
    have hnone := List.flatMap_eq_nil_iff.1 (h _ hrule) name hname
    by_contra hgiven
    rw [if_neg hgiven] at hnone
    cases hnone
  · intro h rule hrule
    cases rule with
    | requiresAttributes names =>
      exact List.flatMap_eq_nil_iff.2 fun name hname => if_pos (h names hrule name hname)
    | allowedTags names => rfl

theorem ruleFailures_eq_nil {tag : String} {descriptor : Descriptor}
    {entry : String × Declaration} :
    ruleFailures page tag descriptor entry = [] ↔ Conforms page tag descriptor entry := by
  unfold ruleFailures
  split
  · next hvisual =>
    rw [elementFailures_eq_nil]
    refine ⟨fun h => ⟨fun _ e he hclass => h e (mem_selected.2 ⟨he, hclass⟩), fun hservice => ?_⟩,
      fun h e he => ?_⟩
    · rw [hvisual] at hservice
      cases hservice
    · obtain ⟨he, hclass⟩ := mem_selected.1 he
      exact h.visual hvisual e he hclass
  · next hservice =>
    rw [declarationFailures_eq_nil]
    exact ⟨fun h => ⟨fun hvisual => absurd hvisual hservice, fun _ => h⟩,
      fun h => h.service (Bool.eq_false_iff.2 hservice)⟩

/-- Nothing is wrong just when every declared component is known and conforms to its type. -/
theorem failures_eq_nil {components : Keyed Declaration} :
    failures page registry components = [] ↔
      ∀ entry ∈ components, ∃ descriptor, registry.resolve entry.1 = some descriptor ∧
        Conforms page (classTag entry.1 components.keys) descriptor entry := by
  rw [failures, List.flatMap_eq_nil_iff]
  refine forall₂_congr fun entry _ => ?_
  unfold entryFailures
  cases registry.resolve entry.1 with
  | none => simp
  | some descriptor => simp [ruleFailures_eq_nil]

/-! ## The first failure -/

/-- In a tree no two elements have one number, so the check selects these elements. -/
theorem attachedTo_eq_selected (ht : page.IsTree) (name tag : String) :
    attachedTo page name tag = selected page name tag := by
  have hwith : ∀ word : String, page.root.withClass word =
      page.root.children.elements.filter fun e => word ∈ e.head.classes := by
    intro word
    rw [Element.withClass, Page.descendants_root ht]
    exact List.filter_congr fun e _ => List.contains_eq_mem _ _
  have hseen : ∀ e ∈ page.root.children.elements,
      ((page.root.children.elements.filter fun e => tag ∈ e.head.classes).any fun other =>
        other.head.id == e.head.id) = decide (tag ∈ e.head.classes) := by
    intro e he
    rw [Bool.eq_iff_iff, List.any_eq_true, decide_eq_true_eq]
    constructor
    · rintro ⟨other, ho, hid⟩
      obtain ⟨hin, hclass⟩ := List.mem_filter.1 ho
      have hsame := Forest.eq_of_mem_elements (Page.nodup_inside ht).2 hin he (eq_of_beq hid)
      exact hsame ▸ of_decide_eq_true hclass
    · exact fun hclass =>
        ⟨e, List.mem_filter.2 ⟨he, decide_eq_true hclass⟩, beq_self_eq_true _⟩
  unfold attachedTo selected
  rw [hwith, hwith name]
  dsimp only
  split
  · next hname =>
    have hnone : ∀ e ∈ page.root.children.elements,
        ¬decide (name ∈ e.head.classes ∧ tag ∉ e.head.classes) = true := by
      intro e _
      rw [hname]
      simp
    rw [List.filter_eq_nil_iff.2 hnone, List.append_nil]
  · rw [List.filter_filter]
    refine congrArg (_ ++ ·) (List.filter_congr fun e he => ?_)
    rw [hseen e he, Bool.decide_and, decide_not, Bool.and_comm]

theorem missing_head? (value : Option String) (violation : Violation) :
    (if isMissing value then some violation else none) =
      (if IsGiven value then [] else [violation]).head? := by
  have hgiven := isGiven_iff value
  cases hmissing : isMissing value with
  | false => rw [if_pos (hgiven.2 hmissing)]; rfl
  | true => rw [if_neg fun h => absurd (hgiven.1 h) (by simp [hmissing])]; rfl

theorem elementViolation?_eq_head? (component : String) (elements : List Element) (rule : Rule) :
    elementViolation? component elements rule =
      (elementFailures component elements rule).head? := by
  cases rule with
  | requiresAttributes names =>
    rw [elementFailures, List.head?_flatMap]
    refine congrArg (elements.findSome? ·) (funext fun e => ?_)
    rw [List.head?_flatMap]
    exact congrArg (names.findSome? ·) (funext fun name => missing_head? _ _)
  | allowedTags names =>
    rw [elementFailures, List.head?_flatMap]
    refine congrArg (elements.findSome? ·) (funext fun e => ?_)
    rw [List.contains_eq_mem]
    by_cases hallowed : Text.upper e.head.tag ∈ names.map Text.upper
    · simp [Head.shownTag, hallowed]
    · simp [Head.shownTag, hallowed]

theorem declarationViolation?_eq_head? (component : String) (declaration : Declaration)
    (rule : Rule) :
    declarationViolation? component declaration rule =
      (declarationFailures component declaration rule).head? := by
  cases rule with
  | requiresAttributes names =>
    rw [declarationFailures, List.head?_flatMap]
    exact congrArg (names.findSome? ·) (funext fun name => missing_head? _ _)
  | allowedTags names => rfl

/-! ## What the check finds out -/

/-- The type of a declared component, if it is known. -/
def typeOf (registry : Registry) (entry : String × Declaration) : List (String × Descriptor) :=
  ((registry.resolve entry.1).map (entry.1, ·)).toList

/-- The class tag of a declared component, if it is known to be visual. -/
def tagged (registry : Registry) (declared : List String) (entry : String × Declaration) :
    List (String × String) :=
  if (registry.resolve entry.1).any Descriptor.isVisual then
    [(entry.1, classTag entry.1 declared)]
  else []

/-- The declarations that the check comes to : those with nothing wrong, and the first one behind
them. -/
def examined (page : Page) (registry : Registry) (declared : List String)
    (entries : List (String × Declaration)) : List (String × Declaration) :=
  entries.take
    ((entries.takeWhile fun entry => entryFailures page registry declared entry = []).length + 1)

theorem examined_cons (declared : List String) (entry : String × Declaration)
    (entries : List (String × Declaration)) :
    examined page registry declared (entry :: entries) =
      entry :: if entryFailures page registry declared entry = [] then
        examined page registry declared entries else [] := by
  unfold examined
  rw [List.takeWhile_cons, List.take_succ_cons]
  by_cases h : entryFailures page registry declared entry = [] <;> simp [h]

/-- Settling a class tag sets it to what it is. -/
theorem classTag_snd (facts : Facts) (name : String) : (facts.classTag name).2 =
    { facts with classTags := facts.classTags.put name (facts.classTag name).1 } := by
  unfold Facts.classTag
  split
  · next tag hget => rw [Keyed.put_of_get? hget]
  · rfl

/-- Checking a component finds its first failure and settles its class tag. -/
theorem examineComponent_eq (ht : page.IsTree) (facts : Facts) {descriptor : Descriptor}
    (entry : String × Declaration) (hname : descriptor.name = entry.1) {tag : String}
    (htag : (facts.classTag entry.1).1 = tag) :
    (examineComponent page facts descriptor entry.2).2 =
        (ruleFailures page tag descriptor entry).head? ∧
      (examineComponent page facts descriptor entry.2).1 = { facts with
        classTags := facts.classTags.putAll (if descriptor.isVisual then [(entry.1, tag)] else [])
        log := (examineComponent page facts descriptor entry.2).1.log } := by
  unfold examineComponent ruleFailures
  split
  · dsimp only [matching]
    rw [hname, classTag_snd, htag, attachedTo_eq_selected ht, List.head?_flatMap]
    exact ⟨congrArg (descriptor.rules.findSome? ·) (funext (elementViolation?_eq_head? _ _)), rfl⟩
  · rw [hname, List.head?_flatMap]
    exact ⟨congrArg (descriptor.rules.findSome? ·)
      (funext (declarationViolation?_eq_head? _ _)), rfl⟩

/-- The facts after the check of some declarations. -/
def Facts.examined (registry : Registry) (declared : List String) (facts : Facts)
    (entries : List (String × Declaration)) (log : Log) : Facts :=
  { facts with
    descriptors := facts.descriptors.putAll (entries.flatMap (typeOf registry))
    classTags := facts.classTags.putAll (entries.flatMap (tagged registry declared))
    log := log }

theorem examined_examined (declared : List String) (facts : Facts)
    (first second : List (String × Declaration)) (between log : Log) :
    (facts.examined registry declared first between).examined registry declared second log =
      facts.examined registry declared (first ++ second) log := by
  simp only [Facts.examined, Keyed.putAll, List.flatMap_append, List.foldl_append]

theorem examined_singleton (declared : List String) (facts : Facts)
    (entry : String × Declaration) {descriptor : Descriptor}
    (h : registry.resolve entry.1 = some descriptor) (log : Log) :
    facts.examined registry declared [entry] log =
      { facts with
        descriptors := facts.descriptors.put entry.1 descriptor
        classTags := facts.classTags.putAll
          (if descriptor.isVisual then [(entry.1, classTag entry.1 declared)] else [])
        log := log } := by
  rw [Facts.examined, List.flatMap_singleton, List.flatMap_singleton, typeOf, tagged, h]
  rfl

/-- The check ends with the first failure of the declarations, and has found out what it came to. -/
theorem examineAll_eq (ht : page.IsTree) (hmade : registry.Made) {declared : List String} :
    ∀ (entries : List (String × Declaration)) (facts : Facts),
      (∀ name, (facts.classTag name).1 = classTag name declared) →
      (examineAll page registry facts entries).2 =
          (entries.flatMap (entryFailures page registry declared)).head? ∧
        (examineAll page registry facts entries).1 =
          facts.examined registry declared (examined page registry declared entries)
            (examineAll page registry facts entries).1.log
  | [], _, _ => ⟨rfl, rfl⟩
  | (name, declaration) :: entries, facts, htags => by
    rw [examined_cons, List.flatMap_cons, examineAll]
    cases hresolve : registry.resolve name with
    | none =>
      have hunknown : entryFailures page registry declared (name, declaration) =
          [.unknownType name] := by
        rw [entryFailures, hresolve]
      rw [hunknown, if_neg (List.cons_ne_nil _ _)]
      refine ⟨rfl, ?_⟩
      simp [Facts.examined, typeOf, tagged, hresolve, Keyed.putAll]
    | some descriptor =>
      have hfailures : entryFailures page registry declared (name, declaration) =
          ruleFailures page (classTag name declared) descriptor (name, declaration) := by
        rw [entryFailures, hresolve]
      have hknown : ∀ other, (({ facts with
          descriptors := facts.descriptors.put name descriptor } : Facts).classTag other).1 =
            classTag other declared := by
        intro other
        rw [← htags, Facts.classTag_fst, Facts.classTag_fst]
      have hsettles := settles_examineComponent page
        { facts with descriptors := facts.descriptors.put name descriptor } descriptor declaration
      obtain ⟨hviolation, hchecked⟩ := examineComponent_eq ht _ (name, declaration)
        (hmade.name_of_resolve hresolve) (hknown name)
      have hfirst := hchecked.trans
        (examined_singleton declared facts (name, declaration) hresolve _).symm
      rw [hfailures]
      dsimp only
      split
      · next checked violation hexamined =>
        rw [hexamined] at hviolation hfirst
        have hwrong : ruleFailures page (classTag name declared) descriptor (name, declaration) ≠
            [] := fun hnil => by rw [hnil] at hviolation; cases hviolation
        rw [if_neg hwrong, List.head?_append, ← hviolation]
        exact ⟨rfl, hfirst⟩
      · next checked hexamined =>
        rw [hexamined] at hviolation hfirst hsettles
        obtain ⟨hrest, hfacts⟩ := examineAll_eq ht hmade entries checked
          fun other => (hsettles.tags other).trans (hknown other)
        rw [List.head?_eq_none_iff.1 hviolation.symm, if_pos rfl, List.nil_append]
        refine ⟨hrest, hfacts.trans ?_⟩
        exact (congrArg (Facts.examined registry declared · _ _) hfirst).trans
          (examined_examined declared facts [(name, declaration)] _ _ _)

end

/-- In a tree the check ends with the first failure. -/
theorem examine_of_isTree {page : Page} {registry : Registry} (ht : page.IsTree)
    (hmade : registry.Made) {facts : Facts} (hsettled : facts.classTags = []) :
    (examine page registry facts).2 = (failures page registry facts.components).head? ∧
      (examine page registry facts).1 =
        facts.examined registry facts.components.keys
          (examined page registry facts.components.keys facts.components)
          (examine page registry facts).1.log := by
  refine examineAll_eq ht hmade facts.components facts fun name => ?_
  rw [Facts.classTag_fst, hsettled]
  rfl

/-- The verdict of the check. It passes just when every declared component is known and conforms to
its type, and otherwise it ends with the first failure. It has found out the types of the
declarations that it came to, and the class tags of the visual ones among them, and nothing else. -/
theorem examine_ofMarkup {text : String} {page : Page} (h : Page.ofMarkup text = .ok page)
    {registry : Registry} (hmade : registry.Made) {facts : Facts} (hknown : facts.descriptors = [])
    (hsettled : facts.classTags = []) :
    ((examine page registry facts).2 = none ↔
      ∀ entry ∈ facts.components, ∃ descriptor, registry.resolve entry.1 = some descriptor ∧
        Conforms page (classTag entry.1 facts.components.keys) descriptor entry) ∧
      (examine page registry facts).2 = (failures page registry facts.components).head? ∧
      ∃ log, (examine page registry facts).1 = { facts with
        descriptors := Keyed.ofPairs ((examined page registry facts.components.keys
          facts.components).flatMap (typeOf registry))
        classTags := Keyed.ofPairs ((examined page registry facts.components.keys
          facts.components).flatMap (tagged registry facts.components.keys))
        log := log } := by
  obtain ⟨hviolation, hfacts⟩ := examine_of_isTree (Page.isTree_ofMarkup h).1 hmade hsettled
  refine ⟨?_, hviolation, (examine page registry facts).1.log, ?_⟩
  · rw [hviolation, List.head?_eq_none_iff, failures_eq_nil]
  · rw [Facts.examined, hknown, hsettled] at hfacts
    exact hfacts

/-- A registry with rules for a visual component and for a service. -/
def shopRegistry : Registry :=
  (Registry.base.register
    ⟨"a.Card", .visual, [.requiresAttributes ["id", "title"], .allowedTags ["div"]]⟩).register
      ⟨"a.Feed", .service, [.allowedTags [], .requiresAttributes ["data-url"]]⟩

/-- A page with an element by the full name in front of one by the class tag. -/
def shopMarkup : String :=
  "<p class=a.Card id=c title=' '></p><div class='b Card' id=d></div>"

/-- Both components declared, the service without what it requires. -/
def shopFacts : Facts :=
  ((Facts.start .native []).declare "a.Card" [] "").declare "a.Feed" [("data-url", "")] "<script>"

/-- The element by the class tag comes first, and the check does not come to the service. -/
theorem examine_ofMarkup_shop :
    ∃ page, Page.ofMarkup shopMarkup = .ok page ∧
      failures page shopRegistry shopFacts.components =
        [.elementLacks "a.Card" "title" "DIV", .elementLacks "a.Card" "title" "P",
          .wrongTag "a.Card" "P" ["div"], .declarationLacks "a.Feed" "data-url" "<script>"] ∧
      (examine page shopRegistry shopFacts).2 = some (.elementLacks "a.Card" "title" "DIV") ∧
      (examine page shopRegistry shopFacts).1.descriptors.keys = ["a.Card"] := by
  have hrun : ((Page.ofMarkup shopMarkup).toOption.any fun page =>
      failures page shopRegistry shopFacts.components ==
        [.elementLacks "a.Card" "title" "DIV", .elementLacks "a.Card" "title" "P",
          .wrongTag "a.Card" "P" ["div"], .declarationLacks "a.Feed" "data-url" "<script>"] &&
      (examine page shopRegistry shopFacts).1.descriptors.keys == ["a.Card"]) = true := by
    decide +kernel
  obtain ⟨page, hread, hresult⟩ := exists_ok_of_any hrun
  rw [Bool.and_eq_true, beq_iff_eq, beq_iff_eq] at hresult
  have hmade : shopRegistry.Made := (Registry.Made.base.register _).register _
  have hviolation : (examine page shopRegistry shopFacts).2 = _ :=
    (examine_ofMarkup hread hmade rfl rfl).2.1
  exact ⟨page, hread, hresult.1, hviolation.trans (congrArg List.head? hresult.1), hresult.2⟩

end PageCompiler.Build
