import PageCompiler.Build.ComponentScripts
import PageCompiler.Proofs.Build.Facts
import PageCompiler.Proofs.Keyed
import PageCompiler.Proofs.Page

/-!
# Which script declares a component

The scripts of a page are read one after the other, while those that were read change or leave the
page. A script that is still to be read is found as it was, in the document or beside it
(`readScript_eq`), since only the script that is read changes. So reading the scripts declares the
components of each as it stands in the page (`facts_foldl_readScript`).

The declared components are in the order in which the page names them first
(`keys_readDeclarations`), and the declaration of each is the one of the last script that declares
it (`get?_readDeclarations`).
-/

namespace PageCompiler.Build

open Markup

/-- The heads of the scripts in the document, in document order. -/
def scripts (page : Page) : List Head :=
  (page.root.withTag "script").map Element.head

theorem readDeclarations_eq (page : Page) (facts : Facts) :
    readDeclarations page facts = ((scripts page).map Head.id).foldl readScript (page, facts) := by
  rw [scripts, List.map_map]
  rfl

/-- The declaration of a component by a script. -/
def declarationAt (head : Head) (name : String) : Declaration :=
  ⟨name, configuration head, head.startTag⟩

/-- The last of some scripts that declares a component. -/
def declarer? (heads : List Head) (name : String) : Option Head :=
  (heads.filter fun head => name ∈ declaredNames head).getLast?

/-- The components that the scripts of a page declare, each once and in the order in which they are
declared first. -/
def declared (page : Page) : List String :=
  ((scripts page).flatMap declaredNames).eraseDups

/-- The components that a script declares, each with its declaration. -/
def declarations (head : Head) : List (String × Declaration) :=
  (declaredNames head).map fun name => (name, declarationAt head name)

/-- Declare the components of a script. -/
def declareAll (facts : Facts) (head : Head) : Facts :=
  (declaredNames head).foldl (Facts.declareAt head) facts

/-- What a declaration configures stands in the script as it is. -/
theorem get?_configuration (head : Head) (name : String) :
    (configuration head).get? name = if configures name then head.get? name else none := by
  rw [configuration, Keyed.get?_map (fun value : Option String => value.getD ""),
    Keyed.get?_filter, Head.get?]
  split <;> rfl

theorem declarer?_cons (head : Head) (heads : List Head) (name : String) :
    declarer? (head :: heads) name =
      (declarer? heads name).or (if name ∈ declaredNames head then some head else none) := by
  unfold declarer?
  by_cases hn : name ∈ declaredNames head
  · rw [List.filter_cons_of_pos (by simpa using hn), List.getLast?_cons, if_pos hn]
    cases (heads.filter fun head => name ∈ declaredNames head).getLast? <;> rfl
  · rw [List.filter_cons_of_neg (by simpa using hn), if_neg hn, Option.or_none]

/-! ## One script -/

theorem components_declareAt (head : Head) (facts : Facts) (name : String) :
    (Facts.declareAt head facts name).components =
      facts.components.put name (declarationAt head name) := by
  unfold Facts.declareAt
  split <;> rfl

theorem components_declareAll (facts : Facts) (head : Head) :
    (declareAll facts head).components = facts.components.putAll (declarations head) := by
  have hrun : ∀ (names : List String) (facts : Facts),
      (names.foldl (Facts.declareAt head) facts).components =
        facts.components.putAll (names.map fun name => (name, declarationAt head name)) := by
    intro names
    induction names with
    | nil => exact fun _ => rfl
    | cons name names ih =>
      intro facts
      rw [List.foldl_cons, ih, components_declareAt]
      rfl
  exact hrun (declaredNames head) facts

/-- A script of the page is read as it stands there. -/
theorem readScript_eq {state : Page × Facts} (ht : state.1.IsTree) {head : Head}
    (hmem : head ∈ state.1.whole.heads) :
    ∃ script, readScript state head.id =
      (if isSpent script then state.1.remove head.id
        else state.1.dropAttribute head.id useAttribute,
        (declaredNames head).foldl (Facts.declareAt head) state.2) := by
  obtain ⟨script, hfound, rfl⟩ :=
    Option.map_eq_some_iff.1 ((Page.element?_head_iff ht).2 ⟨hmem, rfl⟩)
  refine ⟨script, ?_⟩
  rw [readScript, hfound]

/-- Reading a script changes no other head, wherever that one is. -/
theorem isTree_readScript {state : Page × Facts} (ht : state.1.IsTree) {head : Head}
    (hmem : head ∈ state.1.whole.heads) :
    (readScript state head.id).1.IsTree ∧
      ∀ other ∈ state.1.whole.heads, other.id ≠ head.id →
        other ∈ (readScript state head.id).1.whole.heads := by
  obtain ⟨script, hread⟩ := readScript_eq ht hmem
  rw [hread]
  split
  · exact ⟨Page.isTree_remove ht _, fun other ho _ => (Page.heads_remove_perm ht _).mem_iff.2 ho⟩
  · refine ⟨Page.isTree_dropAttribute ht _ _, fun other ho hid => ?_⟩
    rw [Page.heads_dropAttribute]
    exact List.mem_map.2 ⟨other, ho, if_neg hid⟩

/-! ## All scripts -/

/-- Reading scripts declares the components of each, as it stands in the page. -/
theorem facts_foldl_readScript : ∀ (heads : List Head) (state : Page × Facts),
    state.1.IsTree → (∀ head ∈ heads, head ∈ state.1.whole.heads) → (heads.map Head.id).Nodup →
      ((heads.map Head.id).foldl readScript state).1.IsTree ∧
        ((heads.map Head.id).foldl readScript state).2 = heads.foldl declareAll state.2
  | [], _, ht, _, _ => ⟨ht, rfl⟩
  | head :: heads, state, ht, hmem, hn => by
    obtain ⟨hnew, hn⟩ := List.nodup_cons.1 hn
    have hhead := hmem head List.mem_cons_self
    obtain ⟨htree, hkeeps⟩ := isTree_readScript ht hhead
    have hrest : ∀ other ∈ heads, other ∈ (readScript state head.id).1.whole.heads := by
      intro other ho
      refine hkeeps other (hmem other (List.mem_cons_of_mem _ ho)) fun hid => hnew ?_
      exact hid ▸ List.mem_map_of_mem ho
    obtain ⟨hend, hfacts⟩ := facts_foldl_readScript heads _ htree hrest hn
    refine ⟨hend, hfacts.trans ?_⟩
    obtain ⟨script, hread⟩ := readScript_eq ht hhead
    rw [hread]
    rfl

theorem components_foldl_declareAll : ∀ (heads : List Head) (facts : Facts),
    (heads.foldl declareAll facts).components =
      facts.components.putAll (heads.flatMap declarations)
  | [], _ => rfl
  | head :: heads, facts => by
    rw [List.foldl_cons, components_foldl_declareAll heads, components_declareAll,
      List.flatMap_cons, Keyed.putAll_append]

/-- Of the declarations of some scripts the last one of a component is by the last script that
declares it. -/
theorem last?_declarations (name : String) : ∀ heads : List Head,
    Keyed.last? (heads.flatMap declarations) name =
      (declarer? heads name).map (declarationAt · name)
  | [] => rfl
  | head :: heads => by
    rw [List.flatMap_cons, Keyed.last?_append, last?_declarations name heads, declarations,
      Keyed.last?_map, declarer?_cons, Option.map_or]
    split <;> rfl

theorem map_fst_declarations (heads : List Head) :
    (heads.flatMap declarations).map Prod.fst = heads.flatMap declaredNames := by
  rw [List.map_flatMap]
  refine List.flatMap_congr fun head _ => ?_
  rw [declarations, List.map_map]
  exact List.map_id _

/-- Reading the declarations of a page declares the components of its scripts. -/
theorem facts_readDeclarations {page : Page} (ht : page.IsTree) (facts : Facts) :
    (readDeclarations page facts).1.IsTree ∧
      (readDeclarations page facts).2 = (scripts page).foldl declareAll facts := by
  have hinside : (scripts page).Sublist page.inside := by
    rw [scripts, Page.heads_withTag ht]
    exact List.filter_sublist
  have hn : ((scripts page).map Head.id).Nodup :=
    (hinside.map Head.id).nodup (Page.nodup_inside ht).2
  rw [readDeclarations_eq]
  exact facts_foldl_readScript (scripts page) (page, facts) ht
    (fun head hmem => Page.inside_subset_whole page (hinside.subset hmem)) hn

/-- The declarations of a page are gathered from those of its scripts. -/
theorem gathers_readDeclarations {page : Page} (ht : page.IsTree) {facts : Facts}
    (hf : facts.components = []) :
    Keyed.Gathers ((scripts page).flatMap declarations)
      (readDeclarations page facts).2.components := by
  rw [(facts_readDeclarations ht facts).2, components_foldl_declareAll, hf]
  exact Keyed.gathers_putAll _

/-- A component has the declaration of the last script of the page that declares it. -/
theorem get?_readDeclarations {page : Page} (ht : page.IsTree) {facts : Facts}
    (hf : facts.components = []) (name : String) :
    (readDeclarations page facts).1.IsTree ∧
      (readDeclarations page facts).2.components.get? name =
        (declarer? (scripts page) name).map (declarationAt · name) :=
  ⟨(facts_readDeclarations ht facts).1,
    ((gathers_readDeclarations ht hf).get?_eq name).trans (last?_declarations name _)⟩

/-- The components are those that the page declares, in the order of their first declarations. -/
theorem keys_readDeclarations {page : Page} (ht : page.IsTree) {facts : Facts}
    (hf : facts.components = []) :
    (readDeclarations page facts).2.components.keys = declared page := by
  rw [(gathers_readDeclarations ht hf).keys_eq, map_fst_declarations, declared]

theorem reads_declareAt (head : Head) (facts : Facts) (name : String) :
    facts.Reads (Facts.declareAt head facts name) := by
  unfold Facts.declareAt
  split <;> exact ⟨rfl, rfl, rfl⟩

theorem reads_readScript (state : Page × Facts) (number : Nat) :
    state.2.Reads (readScript state number).2 := by
  unfold readScript
  split
  · exact .refl state.2
  · exact Facts.Reads.foldl id (reads_declareAt _) _ state.2

/-- Declarations tell nothing about types and class tags. -/
theorem reads_readDeclarations (page : Page) (facts : Facts) :
    facts.Reads (readDeclarations page facts).2 :=
  Facts.Reads.foldl Prod.snd reads_readScript _ (page, facts)

end PageCompiler.Build
