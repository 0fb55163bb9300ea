import PageCompiler.Build.Compliance
import PageCompiler.Proofs.Build.Facts
import PageCompiler.Proofs.Page

/-!
# What a successful check has checked

When no violation is found, every declared component complies with its type
(`complies_of_examine`) : its type is known, and its rules hold on all elements that it attaches to,
or on its declaration if it is a service. The facts that this refers to, class tags and types, are
settled when the component is checked, and what comes later keeps them (`Extends`).

The elements that a component attaches to are all those with its class tag or its name among their
classes (`mem_attachedTo`).
-/

namespace PageCompiler.Build

open Markup Component

/-- A value that is present and not blank. -/
def IsGiven (value : Option String) : Prop :=
  ∃ text, value = some text ∧ Text.isBlankText text = false

/-- All attributes that the rules of a type require are given. -/
def HasRequired (descriptor : Descriptor) (value? : String → Option String) : Prop :=
  ∀ names, .requiresAttributes names ∈ descriptor.rules → ∀ name ∈ names, IsGiven (value? name)

/-- What the rules of a visual type ask of an element. -/
structure Satisfies (descriptor : Descriptor) (head : Head) : Prop where
  required : HasRequired descriptor head.get?
  allowed : ∀ names, .allowedTags names ∈ descriptor.rules →
    Text.upper head.tag ∈ names.map Text.upper

/-- A declared component follows the rules of its type, as far as page and facts tell. -/
structure Complies (page : Page) (facts : Facts) (descriptor : Descriptor)
    (entry : String × Declaration) : Prop where
  known : facts.descriptors.get? entry.1 = some descriptor
  visual : descriptor.isVisual = true →
    ∃ tag, facts.classTags.get? descriptor.name = some tag ∧
      ∀ element ∈ attachedTo page descriptor.name tag, Satisfies descriptor element.head
  service : descriptor.isVisual = false → HasRequired descriptor entry.2.attributes.get?

/-- Later facts keep target, declarations, class tags and the types of the registry, and every
component gets the class tag that it would have got. -/
structure Extends (registry : Registry) (facts later : Facts) : Prop where
  target : later.target = facts.target
  components : later.components = facts.components
  tags : ∀ name, (later.classTag name).1 = (facts.classTag name).1
  classTags : ∀ {name tag}, facts.classTags.get? name = some tag →
    later.classTags.get? name = some tag
  descriptors : ∀ {name descriptor}, registry.resolve name = some descriptor →
    facts.descriptors.get? name = some descriptor → later.descriptors.get? name = some descriptor

theorem Extends.refl (registry : Registry) (facts : Facts) : Extends registry facts facts :=
  ⟨rfl, rfl, fun _ => rfl, id, fun _ => id⟩

theorem Extends.trans {registry : Registry} {first second third : Facts}
    (h : Extends registry first second) (h' : Extends registry second third) :
    Extends registry first third where
  target := h'.target.trans h.target
  components := h'.components.trans h.components
  tags name := (h'.tags name).trans (h.tags name)
  classTags ht := h'.classTags (h.classTags ht)
  descriptors hr hd := h'.descriptors hr (h.descriptors hr hd)

theorem Complies.extend {page : Page} {registry : Registry} {facts later : Facts}
    {descriptor : Descriptor} {entry : String × Declaration}
    (h : Complies page facts descriptor entry) (hr : registry.resolve entry.1 = some descriptor)
    (he : Extends registry facts later) : Complies page later descriptor entry := by
  refine ⟨he.descriptors hr h.known, fun hv => ?_, h.service⟩
  obtain ⟨tag, htag, helements⟩ := h.visual hv
  exact ⟨tag, he.classTags htag, helements⟩

theorem isVisual_of_complies {page : Page} {facts : Facts} {descriptor : Descriptor}
    {entry : String × Declaration} (h : Complies page facts descriptor entry) :
    facts.isVisual entry.1 = descriptor.isVisual := by
  rw [Facts.isVisual, h.known, Option.any_some]

/-! ## Settling facts -/

theorem extends_of_settles (registry : Registry) {facts later : Facts} (h : facts.Settles later) :
    Extends registry facts later :=
  ⟨h.target, h.components, h.tags, h.settled, fun _ hd => by rw [h.others]; exact hd⟩

theorem extends_put {registry : Registry} {name : String} {descriptor : Descriptor}
    (h : registry.resolve name = some descriptor) (facts : Facts) :
    Extends registry facts
      { facts with descriptors := facts.descriptors.put name descriptor } := by
  refine ⟨rfl, rfl, fun _ => by rw [Facts.classTag_fst, Facts.classTag_fst], id,
    fun {other found} hr hd => ?_⟩
  rw [Keyed.get?_put]
  split
  · next he => rw [← h, he, hr]
  · exact hd

/-! ## Rules -/

theorem isGiven_iff (value : Option String) : IsGiven value ↔ isMissing value = false := by
  constructor
  · rintro ⟨text, rfl, hb⟩
    exact hb
  · intro h
    cases value with
    | none => cases h
    | some text => exact ⟨text, rfl, h⟩

/-- No rule is violated on some elements if each of them satisfies the type. -/
theorem satisfies_of_elementViolation? {descriptor : Descriptor} {component : String}
    {elements : List Element}
    (h : descriptor.rules.findSome? (elementViolation? component elements) = none) :
    ∀ element ∈ elements, Satisfies descriptor element.head := by
  rw [List.findSome?_eq_none_iff] at h
  intro element hmem
  refine ⟨fun names hrule name hname => ?_, fun names hrule => ?_⟩
  · have hnone := List.findSome?_eq_none_iff.1 (h _ hrule) element hmem
    have hvalue := List.findSome?_eq_none_iff.1 hnone name hname
    rw [isGiven_iff, ← Bool.not_eq_true]
    intro hmissing
    rw [if_pos hmissing] at hvalue
    cases hvalue
  · have hnone := List.findSome?_eq_none_iff.1 (h _ hrule) element hmem
    split at hnone
    · next hcontains => simpa [Head.shownTag] using hcontains
    · cases hnone

theorem hasRequired_of_declarationViolation? {descriptor : Descriptor} {component : String}
    {declaration : Declaration}
    (h : descriptor.rules.findSome? (declarationViolation? component declaration) = none) :
    HasRequired descriptor declaration.attributes.get? := by
  rw [List.findSome?_eq_none_iff] at h
  intro names hrule name hname
  have hvalue := List.findSome?_eq_none_iff.1 (h _ hrule) name hname
  rw [isGiven_iff, ← Bool.not_eq_true]
  intro hmissing
  rw [if_pos hmissing] at hvalue
  cases hvalue

/-! ## Elements -/

theorem mem_withClass {page : Page} (ht : page.IsTree) {element : Element} {word : String} :
    element ∈ page.root.withClass word ↔
      element ∈ page.root.children.elements ∧ word ∈ element.head.classes := by
  rw [Element.withClass, Page.descendants_root ht, List.mem_filter, List.contains_iff_mem]

/-- A component attaches to every element with its class tag or its name among the classes. -/
theorem mem_attachedTo {page : Page} (ht : page.IsTree) {name tag : String} {element : Element}
    (hmem : element ∈ page.root.children.elements)
    (hclass : tag ∈ element.head.classes ∨ name ∈ element.head.classes) :
    element ∈ attachedTo page name tag := by
  by_cases h : tag ∈ element.head.classes
  · have hfound := (mem_withClass ht).2 ⟨hmem, h⟩
    unfold attachedTo
    split
    · exact hfound
    · exact List.mem_append_left _ hfound
  · have hname := hclass.resolve_left h
    have hne : name ≠ tag := fun he => h (he ▸ hname)
    rw [attachedTo, if_neg hne]
    refine List.mem_append_right _ (List.mem_filter.2 ⟨(mem_withClass ht).2 ⟨hmem, hname⟩, ?_⟩)
    -- an element of the same number would be this one, which has no such class
    have hnone : ∀ other ∈ page.root.withClass tag, other.head.id ≠ element.head.id := by
      intro other ho hid
      obtain ⟨hin, hword⟩ := (mem_withClass ht).1 ho
      rw [Page.eq_of_mem_inside ht (Forest.head_mem_heads hin) (Forest.head_mem_heads hmem) hid]
        at hword
      exact h hword
    simpa using hnone

/-! ## Checking -/

/-- Checking a component settles its class tag at most. -/
theorem settles_examineComponent (page : Page) (facts : Facts) (descriptor : Descriptor)
    (declaration : Declaration) :
    facts.Settles (examineComponent page facts descriptor declaration).1 := by
  unfold examineComponent
  split
  · exact (Facts.Settles.classTag facts descriptor.name).trans (.say _ _ _)
  · exact .refl facts

theorem complies_of_examineComponent {page : Page} {registry : Registry} {facts checked : Facts}
    {descriptor : Descriptor} (entry : String × Declaration)
    (hk : facts.descriptors.get? entry.1 = some descriptor)
    (hr : registry.resolve entry.1 = some descriptor)
    (h : examineComponent page facts descriptor entry.2 = (checked, none)) :
    Extends registry facts checked ∧ Complies page checked descriptor entry := by
  have hsettles := settles_examineComponent page facts descriptor entry.2
  rw [h] at hsettles
  have hextends := extends_of_settles registry hsettles
  unfold examineComponent at h
  split at h
  · next hv =>
    obtain ⟨rfl, hnone⟩ := Prod.mk.inj h
    have htag : (facts.classTag descriptor.name).2.classTags.get? descriptor.name =
        some (facts.classTag descriptor.name).1 := by
      rw [Facts.get?_classTags_classTag, if_pos rfl]
    refine ⟨hextends, hextends.descriptors hr hk,
      fun _ => ⟨_, htag, satisfies_of_elementViolation? hnone⟩, ?_⟩
    intro hs
    rw [hv] at hs
    cases hs
  · next hv =>
    obtain ⟨rfl, hnone⟩ := Prod.mk.inj h
    exact ⟨hextends, hk, fun hs => absurd hs hv,
      fun _ => hasRequired_of_declarationViolation? hnone⟩

/-- What the check of one component after the other has done once it passes the first. -/
theorem examineAll_cons {page : Page} {registry : Registry} {facts checked : Facts} {name : String}
    {declaration : Declaration} {entries : List (String × Declaration)}
    (h : examineAll page registry facts ((name, declaration) :: entries) = (checked, none)) :
    ∃ descriptor between, registry.resolve name = some descriptor ∧
      examineComponent page { facts with descriptors := facts.descriptors.put name descriptor }
        descriptor declaration = (between, none) ∧
      examineAll page registry between entries = (checked, none) := by
  rw [examineAll] at h
  split at h
  · cases h
  · next descriptor hr =>
    dsimp only at h
    split at h
    · cases h
    · next between hexamined => exact ⟨descriptor, between, hr, hexamined, h⟩

theorem complies_of_examineAll {page : Page} {registry : Registry} {checked : Facts} :
    ∀ {entries : List (String × Declaration)} {facts : Facts},
      examineAll page registry facts entries = (checked, none) →
      Extends registry facts checked ∧
        ∀ entry ∈ entries, ∃ descriptor, registry.resolve entry.1 = some descriptor ∧
          Complies page checked descriptor entry
  | [], facts, h => by
    obtain ⟨rfl, -⟩ := Prod.mk.inj h
    exact ⟨.refl registry facts, fun _ hmem => absurd hmem List.not_mem_nil⟩
  | (name, declaration) :: entries, facts, h => by
    obtain ⟨descriptor, between, hr, hexamined, h⟩ := examineAll_cons h
    have hput := extends_put hr facts
    obtain ⟨hfirst, hcomplies⟩ := complies_of_examineComponent (name, declaration)
      (by rw [Keyed.get?_put, if_pos rfl]) hr hexamined
    obtain ⟨hrest, hall⟩ := complies_of_examineAll h
    refine ⟨(hput.trans hfirst).trans hrest, fun other ho => ?_⟩
    rcases List.mem_cons.1 ho with rfl | ho
    · exact ⟨descriptor, hr, hcomplies.extend hr hrest⟩
    · exact hall other ho

theorem extends_of_examine {page : Page} {registry : Registry} {facts checked : Facts}
    (h : examine page registry facts = (checked, none)) : Extends registry facts checked :=
  (complies_of_examineAll h).1

/-- If no violation is found, every declared component complies with its type. -/
theorem complies_of_examine {page : Page} {registry : Registry} {facts checked : Facts}
    (h : examine page registry facts = (checked, none)) :
    checked.components = facts.components ∧
      ∀ entry ∈ facts.components, ∃ descriptor, registry.resolve entry.1 = some descriptor ∧
        Complies page checked descriptor entry := by
  obtain ⟨hextends, hall⟩ := complies_of_examineAll h
  exact ⟨hextends.components, hall⟩

end PageCompiler.Build
