import PageCompiler.Build.Directives
import PageCompiler.Proofs.Build.ComponentScripts

/-!
# What directives leave alone

Following the directives takes only `meta` elements out of the page. Those have no children, so all
other elements stay where they are : the scripts of the page are the ones of its source, in the same
order (`keepsScripts_followDirectives`). No directive declares a component.

A named `meta` element sets a flag, or else it asks for an exposed name, if the target is a script,
or else it gives a parameter (`directive?_eq`).
-/

namespace PageCompiler.Build

open Markup

/-! ## Kinds of directives -/

/-- What a directive says; one without a value says nothing. -/
def content (head : Head) : String :=
  (head.get? "content").getD ""

/-- The name of a directive and what it says. -/
def named? (head : Head) : Option (String × String) :=
  (head.get? "name").map fun name => (name, content head)

/-- The directive sets a flag. -/
def SetsFlag (head : Head) (flag : String) : Prop :=
  head.get? "name" = some flag ∧
    (head.get? "content" = some flagContent ∨
      head.get? "content" = some "true" ∧ flag ∈ reservedFlags)

/-- The directive asks for an exposed name. -/
def AsksName (head : Head) : Prop :=
  head.get? "name" = some exposedNameKey ∧ ¬SetsFlag head exposedNameKey

instance (head : Head) (flag : String) : Decidable (SetsFlag head flag) :=
  inferInstanceAs (Decidable (_ ∧ (_ ∨ _ ∧ _)))

instance (head : Head) : Decidable (AsksName head) :=
  inferInstanceAs (Decidable (_ ∧ ¬_))

section

variable {target : Target} {head : Head} {name : String}

theorem setsFlag_iff (hname : head.get? "name" = some name) {flag : String} :
    SetsFlag head flag ↔ name = flag ∧ SetsFlag head name := by
  refine ⟨fun h => ?_, fun h => h.1 ▸ h.2⟩
  obtain rfl := Option.some.inj (hname.symm.trans h.1)
  exact ⟨rfl, h⟩

theorem asksName_iff (hname : head.get? "name" = some name) (hno : ¬SetsFlag head name) :
    AsksName head ↔ name = exposedNameKey := by
  refine ⟨fun h => Option.some.inj (hname.symm.trans h.1), ?_⟩
  rintro rfl
  exact ⟨hname, hno⟩

/-- A directive is for a flag, or else for the exposed name, or else for the application. -/
theorem directive?_eq (hname : head.get? "name" = some name) :
    directive? target head = some (
      if SetsFlag head name then .flag name
      else if target = .js ∧ AsksName head then
        .exposedName (if Text.isBlankText (content head) then none
          else some (Text.strip (content head)))
      else .parameter name (content head)) := by
  have hflag : ((reservedFlags.contains name && head.get? "content" == some "true") ||
      head.get? "content" == some flagContent) = true ↔ SetsFlag head name := by
    simp only [SetsFlag, hname, true_and, Bool.or_eq_true, Bool.and_eq_true, beq_iff_eq,
      List.contains_iff_mem]
    tauto
  simp only [directive?, hname, hflag]
  by_cases hsets : SetsFlag head name
  · rw [if_pos hsets, if_pos hsets]
  · simp only [if_neg hsets, asksName_iff hname hsets, Target.isJs, Bool.and_eq_true,
      decide_eq_true_eq, beq_iff_eq, Text.strip_eq_empty_iff, content]
    split <;> rfl

end

/-! ## The scripts of a page -/

theorem isVoid_of_meta {head : Head} (h : head.tag = "meta") : head.isVoid = true := by
  rw [Head.isVoid, h]
  decide

/-- What is true of page and facts while the directives of `source` are followed. -/
structure KeepsScripts (source : Page) (state : Page × Facts) : Prop where
  isTree : state.1.IsTree
  voidsEmpty : state.1.root.children.VoidsEmpty
  inside_subset : state.1.inside ⊆ source.inside
  scripts_eq : scripts state.1 = scripts source
  undeclared : state.2.components = []

theorem components_setFlag (facts : Facts) (name : String) :
    (facts.setFlag name).components = facts.components := by
  rw [Facts.setFlag_eq]

theorem components_follow (facts : Facts) (directive : Directive) :
    (facts.follow directive).components = facts.components := by
  cases directive with
  | flag name => exact components_setFlag _ name
  | exposedName name => cases name <;> rfl
  | parameter name value => rfl

section

variable {source : Page} {state : Page × Facts}

/-- Without a `meta` element the scripts are the same. -/
theorem KeepsScripts.remove (hs : source.IsTree) (h : KeepsScripts source state) {head : Head}
    (hmem : head ∈ source.inside) (htag : head.tag = Text.lower "meta") :
    KeepsScripts source (state.1.remove head.id, state.2) := by
  have hsame : ∀ other ∈ state.1.inside, other.id = head.id → other = head := fun other ho hid =>
    Page.eq_of_mem_inside hs (h.inside_subset ho) hmem hid
  have hvoid : head.isVoid = true := isVoid_of_meta (htag.trans (by decide))
  have hinside := Page.inside_remove h.isTree h.voidsEmpty fun other ho hid => by
    rw [hsame other ho hid, hvoid]
  have htree := Page.isTree_remove h.isTree head.id
  refine ⟨htree, Page.voidsEmpty_remove h.isTree h.voidsEmpty _, ?_, ?_, h.undeclared⟩
  · rw [hinside]
    exact fun other ho => h.inside_subset (List.mem_filter.1 ho).1
  · rw [← h.scripts_eq, scripts, scripts, Page.heads_withTag htree, Page.heads_withTag h.isTree,
      hinside, List.filter_filter]
    refine List.filter_congr fun other ho => ?_
    by_cases hid : other.id = head.id
    · have hscript : other.tag ≠ Text.lower "script" := by
        rw [hsame other ho hid, htag]
        decide
      simp [hscript]
    · simp [hid]

theorem keepsScripts_followElement (hs : source.IsTree) (h : KeepsScripts source state)
    {head : Head} (hmem : head ∈ source.inside) (htag : head.tag = Text.lower "meta") :
    KeepsScripts source (followElement state head.id) := by
  unfold followElement
  split
  · exact h
  · split
    · exact h
    · next directive _ =>
      have hfacts := (components_follow state.2 directive).trans h.undeclared
      split
      · exact { h with undeclared := hfacts }
      · exact { h.remove hs hmem htag with undeclared := hfacts }

theorem keepsScripts_foldl (hs : source.IsTree) : ∀ (heads : List Head) {state : Page × Facts},
    (∀ head ∈ heads, head ∈ source.inside ∧ head.tag = Text.lower "meta") →
      KeepsScripts source state →
      KeepsScripts source ((heads.map Head.id).foldl followElement state)
  | [], _, _, h => h
  | head :: heads, state, hmeta, h => by
    obtain ⟨hmem, htag⟩ := hmeta head List.mem_cons_self
    exact keepsScripts_foldl hs heads (fun other ho => hmeta other (List.mem_cons_of_mem _ ho))
      (keepsScripts_followElement hs h hmem htag)

end

/-- Following the directives of a page that was just read keeps its scripts. -/
theorem keepsScripts_followDirectives {page : Page} {facts : Facts} (ht : page.IsTree)
    (hv : page.root.children.VoidsEmpty) (hf : facts.components = []) :
    KeepsScripts page (followDirectives page facts) := by
  have hstart : KeepsScripts page (page, facts) := ⟨ht, hv, fun _ hmem => hmem, rfl, hf⟩
  have hheads : ∀ head ∈ (page.root.withTag "meta").map Element.head,
      head ∈ page.inside ∧ head.tag = Text.lower "meta" := by
    intro head hmem
    rw [Page.heads_withTag ht, List.mem_filter, decide_eq_true_eq] at hmem
    exact hmem
  have hrun := keepsScripts_foldl ht _ hheads hstart
  rwa [List.map_map] at hrun

theorem reads_follow (facts : Facts) (directive : Directive) :
    facts.Reads (facts.follow directive) := by
  cases directive with
  | flag name =>
    have hsaid : facts.Reads (facts.say .debug ("Compile-time flag: " ++ name)) := ⟨rfl, rfl, rfl⟩
    exact hsaid.trans (Facts.reads_setFlag _ name)
  | exposedName name => cases name <;> exact ⟨rfl, rfl, rfl⟩
  | parameter name value => exact ⟨rfl, rfl, rfl⟩

theorem reads_followElement (state : Page × Facts) (id : Nat) :
    state.2.Reads (followElement state id).2 := by
  unfold followElement
  split
  · exact .refl state.2
  · split
    · exact .refl state.2
    · exact reads_follow state.2 _

/-- Directives tell nothing about types and class tags. -/
theorem reads_followDirectives (page : Page) (facts : Facts) :
    facts.Reads (followDirectives page facts).2 :=
  Facts.Reads.foldl Prod.snd reads_followElement _ (page, facts)

end PageCompiler.Build
