import PageCompiler.Proofs.Build.ProcessedPage
import PageCompiler.Proofs.Markup.RawText

/-!
# Reading a page again

A page that was read holds nothing for the build any more : reading it again changes nothing in it
and finds out nothing but the parameters of the application, the same in the same order
(`readPage_readPage`). Every directive to the build and every empty script has left the page, and
the other scripts have lost what they declare (`isRead_of_root_eq`); a page like that is left as it
is (`readPage_of_isRead`).

The parameters are those of the `meta` elements that stay (`parameters_of_root_eq`). None of these
is lost with a script that leaves the page, since a script holds no elements.
-/

namespace PageCompiler.Build

open Markup

/-- What the build reads off a page before it checks anything : directives, then declarations. -/
def readPage (page : Page) (facts : Facts) : Page × Facts :=
  readDeclarations (followDirectives page facts).1 (followDirectives page facts).2

/-! ## What directives tell -/

/-- Follow what an element means, if it is a directive. -/
def followHead (facts : Facts) (head : Head) : Facts :=
  match directive? facts.target head with
  | none => facts
  | some directive => facts.follow directive

/-- The name and the value of the parameter that an element gives, if it gives one. -/
def parameter? (target : Target) (head : Head) : Option (String × String) :=
  match directive? target head with
  | some (.parameter name value) => some (name, value)
  | _ => none

/-- A directive that is not for the build gives a parameter. -/
theorem parameter?_eq {target : Target} {head : Head} (htag : head.tag = "meta") :
    parameter? target head = if IsTaken target head then none else named? head := by
  cases hname : head.get? "name" with
  | none => simp [parameter?, directive?, named?, hname]
  | some name =>
    rw [parameter?, directive?_eq hname, named?, hname, Option.map_some]
    simp only [isTaken_iff htag hname]
    by_cases hsets : SetsFlag head name
    · rw [if_pos hsets, if_pos (.inl hsets)]
    · rw [if_neg hsets]
      by_cases hasks : target = .js ∧ AsksName head
      · rw [if_pos hasks]
        exact (if_pos (.inr hasks)).symm
      · rw [if_neg hasks, if_neg fun h => h.elim hsets hasks]

theorem target_followHead (facts : Facts) (head : Head) :
    (followHead facts head).target = facts.target := by
  unfold followHead
  split
  · rfl
  · exact (reads_follow facts _).target

theorem followElement_eq {state : Page × Facts} (ht : state.1.IsTree) {head : Head}
    (hmem : head ∈ state.1.whole.heads) :
    (followElement state head.id).2 = followHead state.2 head ∧
      ((followElement state head.id).1 = state.1 ∨
        (followElement state head.id).1 = state.1.remove head.id) := by
  obtain ⟨element, hfound, rfl⟩ :=
    Option.map_eq_some_iff.1 ((Page.element?_head_iff ht).2 ⟨hmem, rfl⟩)
  unfold followElement followHead
  rw [hfound]
  dsimp only
  cases directive? state.2.target element.head with
  | none => exact ⟨rfl, .inl rfl⟩
  | some directive =>
    dsimp only
    cases directive.stays with
    | true => exact ⟨rfl, .inl rfl⟩
    | false => exact ⟨rfl, .inr rfl⟩

/-- Following elements follows what each means as it stands in the page. -/
theorem facts_foldl_followElement : ∀ (heads : List Head) (state : Page × Facts),
    state.1.IsTree → (∀ head ∈ heads, head ∈ state.1.whole.heads) →
      ((heads.map Head.id).foldl followElement state).2 = heads.foldl followHead state.2
  | [], _, _, _ => rfl
  | head :: heads, state, ht, hmem => by
    obtain ⟨hfacts, hpage⟩ := followElement_eq ht (hmem head List.mem_cons_self)
    have hstep : (followElement state head.id).1.IsTree ∧
        ∀ other ∈ heads, other ∈ (followElement state head.id).1.whole.heads := by
      have hrest := fun other ho => hmem other (List.mem_cons_of_mem head ho)
      obtain hpage | hpage := hpage
      · rw [hpage]
        exact ⟨ht, hrest⟩
      · rw [hpage]
        exact ⟨Page.isTree_remove ht _,
          fun other ho => (Page.heads_remove_perm ht _).mem_iff.2 (hrest other ho)⟩
    rw [List.map_cons, List.foldl_cons, List.foldl_cons, ← hfacts]
    exact facts_foldl_followElement heads _ hstep.1 hstep.2

/-- The directives of a page are followed as they stand in it. -/
theorem facts_followDirectives {page : Page} (ht : page.IsTree) (facts : Facts) :
    (followDirectives page facts).2 = (metas page).foldl followHead facts := by
  have hmem : ∀ head ∈ metas page, head ∈ page.whole.heads := fun head hhead =>
    Page.inside_subset_whole page ((mem_metas ht).1 hhead).1
  rw [followDirectives_eq]
  exact facts_foldl_followElement (metas page) (page, facts) ht hmem

theorem parameters_followHead (facts : Facts) (head : Head) :
    (followHead facts head).parameters =
      facts.parameters.putAll (parameter? facts.target head).toList := by
  unfold followHead parameter?
  cases directive? facts.target head with
  | none => rfl
  | some directive =>
    cases directive with
    | flag name =>
      dsimp only [Facts.follow]
      rw [Facts.setFlag_eq]
      rfl
    | exposedName name => cases name <;> rfl
    | parameter name value => rfl

theorem parameters_foldl_followHead : ∀ (heads : List Head) (facts : Facts),
    (heads.foldl followHead facts).parameters =
      facts.parameters.putAll (heads.filterMap (parameter? facts.target))
  | [], _ => rfl
  | head :: heads, facts => by
    rw [List.foldl_cons, parameters_foldl_followHead heads, parameters_followHead,
      target_followHead]
    cases hhead : parameter? facts.target head with
    | none => rw [List.filterMap_cons_none hhead]; rfl
    | some pair => rw [List.filterMap_cons_some hhead]; rfl

/-! ## Pages that were read -/

/-- Nothing in the page is a directive to the build, and its scripts hold or load something and
declare nothing. -/
structure IsRead (target : Target) (page : Page) : Prop where
  isTree : page.IsTree
  metas : ∀ head ∈ metas page, ¬IsTaken target head
  scripts : ∀ e ∈ page.root.children.elements, e.head.tag = "script" →
    isSpent e = false ∧ e.head.has useAttribute = false

section

variable {page : Page} {facts : Facts}

theorem declaredNames_of_not_has {head : Head} (h : head.has useAttribute = false) :
    declaredNames head = [] := by
  have hnone : Keyed.get? head.attributes useAttribute = none := by
    simpa [Head.has, Keyed.has] using h
  rw [declaredNames, Head.get?, hnone]
  rfl

/-- A script that declares nothing and does something is left as it is. -/
theorem readScript_of_isRead (h : IsRead facts.target page) {head : Head}
    (hmem : head ∈ scripts page) : readScript (page, facts) head.id = (page, facts) := by
  obtain ⟨hinside, htag⟩ := (mem_scripts h.isTree).1 hmem
  rw [Page.inside, ← Forest.map_head_elements] at hinside
  obtain ⟨e, he, rfl⟩ := List.mem_map.1 hinside
  obtain ⟨hspent, hhas⟩ := h.scripts e he htag
  have hwhole := Page.inside_subset_whole page (Forest.head_mem_heads he)
  rw [readScript, Page.element?_of_mem h.isTree he]
  dsimp only
  rw [hspent, if_neg Bool.false_ne_true, Page.dropAttribute_of_not_has h.isTree hwhole hhas,
    declaredNames_of_not_has hhas]
  rfl

theorem readDeclarations_of_isRead (h : IsRead facts.target page) :
    readDeclarations page facts = (page, facts) := by
  have hrun : ∀ heads : List Head, (∀ head ∈ heads, head ∈ scripts page) →
      (heads.map Head.id).foldl readScript (page, facts) = (page, facts) := by
    intro heads
    induction heads with
    | nil => exact fun _ => rfl
    | cons head heads ih =>
      intro hmem
      rw [List.map_cons, List.foldl_cons, readScript_of_isRead h (hmem head List.mem_cons_self)]
      exact ih fun other ho => hmem other (List.mem_cons_of_mem _ ho)
  rw [readDeclarations_eq]
  exact hrun (scripts page) fun _ hmem => hmem

/-- An element that is no directive to the build tells a parameter at most, and stays. -/
theorem followElement_of_isRead (h : IsRead facts.target page) {head : Head}
    (hmem : head ∈ metas page) :
    followElement (page, facts) head.id =
      (page, { facts with
        parameters := facts.parameters.putAll (parameter? facts.target head).toList }) := by
  obtain ⟨hinside, htag⟩ := (mem_metas h.isTree).1 hmem
  have hkept := h.metas head hmem
  rw [Page.inside, ← Forest.map_head_elements] at hinside
  obtain ⟨e, he, rfl⟩ := List.mem_map.1 hinside
  rw [followElement, Page.element?_of_mem h.isTree he, parameter?]
  dsimp only
  cases hdirective : directive? facts.target e.head with
  | none => rfl
  | some directive =>
    have hstays : directive.stays ≠ false := fun hgoes =>
      hkept ((stays_of_directive? htag hdirective).1 hgoes)
    cases directive with
    | flag name => exact absurd rfl hstays
    | exposedName name => exact absurd rfl hstays
    | parameter name value => rfl

theorem foldl_followElement_of_isRead {target : Target} (h : IsRead target page) :
    ∀ (heads : List Head) (facts : Facts), facts.target = target →
      (∀ head ∈ heads, head ∈ metas page) →
      (heads.map Head.id).foldl followElement (page, facts) =
        (page, { facts with
          parameters := facts.parameters.putAll (heads.filterMap (parameter? target)) })
  | [], _, _, _ => rfl
  | head :: heads, facts, htarget, hmem => by
    obtain rfl := htarget
    rw [List.map_cons, List.foldl_cons, followElement_of_isRead h (hmem head List.mem_cons_self)]
    refine (foldl_followElement_of_isRead h heads _ (by rfl) fun other ho =>
      hmem other (List.mem_cons_of_mem _ ho)).trans ?_
    cases hhead : parameter? facts.target head with
    | none => rw [List.filterMap_cons_none hhead]; rfl
    | some pair => rw [List.filterMap_cons_some hhead]; rfl

/-- A page that was read is left as it is, and tells its parameters only. -/
theorem readPage_of_isRead (h : IsRead facts.target page) :
    readPage page facts =
      (page, { facts with
        parameters := facts.parameters.putAll
          ((metas page).filterMap (parameter? facts.target)) }) := by
  rw [readPage, followDirectives_eq,
    foldl_followElement_of_isRead h (metas page) facts rfl fun _ hmem => hmem]
  exact readDeclarations_of_isRead ⟨h.isTree, h.metas, h.scripts⟩

end

/-! ## After the first reading -/

theorem tag_processed {target : Target} {e : Element} {head : Head}
    (h : processed target e = some head) : head.tag = e.head.tag := by
  unfold processed at h
  split at h
  · cases h
  · split at h <;> obtain rfl := Option.some.inj h <;> rfl

/-- What is dropped holds no elements, if raw text holds none. -/
theorem elements_of_processed {target : Target} {forest : Forest} (hv : forest.VoidsEmpty)
    (hraw : ∀ e ∈ forest.elements, e.HoldsText) {e : Element} (he : e ∈ forest.elements)
    (h : processed target e = none) : e.children.elements = [] := by
  unfold processed at h
  split at h
  · next hdropped =>
    rcases hdropped with hmeta | hscript
    · rw [hv e he (isVoid_of_meta hmeta.1)]
      rfl
    · refine hraw e he ?_
      rw [hscript.1]
      decide
  · split at h <;> cases h

theorem get?_attributes_drop (head : Head) (name other : String) :
    Keyed.get? (head.drop name).attributes other =
      if other = name then none else Keyed.get? head.attributes other := by
  have hwithout : Keyed.get? (Keyed.without head.attributes name) other =
      if other = name then none else Keyed.get? head.attributes other := by
    have hfilter := Keyed.get?_filter (fun key => decide (key ≠ name)) other head.attributes
    by_cases ho : other = name <;> simpa [Keyed.without, ho] using hfilter
  unfold Head.drop
  split
  · exact hwithout
  · next hhas =>
    split
    · next ho => simpa [Head.has, Keyed.has, ho] using hhas
    · rfl

theorem has_drop (head : Head) (name : String) : (head.drop name).has name = false := by
  rw [Head.has, Keyed.has, get?_attributes_drop, if_pos rfl]
  rfl

theorem get?_drop (head : Head) {name other : String} (h : other ≠ name) :
    (head.drop name).get? other = head.get? other := by
  rw [Head.get?, get?_attributes_drop, if_neg h, Head.get?]

/-- A script that stays does something still, and declares nothing more. -/
theorem isSpent_drop {script : Element} {children : Forest} (h : children = script.children) :
    isSpent ⟨script.head.drop useAttribute, children⟩ = isSpent script := by
  have hsrc : ("src" : String) ≠ useAttribute := by decide
  rw [isSpent, isSpent, get?_drop _ hsrc, h]

section

variable {target : Target} {page next : Page}

/-- A page edited as the build does it was read. -/
theorem isRead_of_root_eq (hraw : ∀ e ∈ page.root.children.elements, e.HoldsText)
    (htree : next.IsTree)
    (hroot : next.root = ⟨page.root.head, page.root.children.edit (processed target)⟩) :
    IsRead target next := by
  have horigin : ∀ e ∈ next.root.children.elements, ∃ source ∈ page.root.children.elements,
      processed target source = some e.head ∧ source.head.tag = e.head.tag ∧
        e.children = source.children.edit (processed target) := by
    intro e he
    rw [hroot] at he
    obtain ⟨source, hsource, hbecome, hchildren⟩ := Forest.mem_elements_edit _ he
    exact ⟨source, hsource, hbecome, (tag_processed hbecome).symm, hchildren⟩
  refine ⟨htree, fun head hmem => ?_, fun e he htag => ?_⟩
  · obtain ⟨hinside, htag⟩ := (mem_metas htree).1 hmem
    rw [Page.inside, ← Forest.map_head_elements] at hinside
    obtain ⟨e, he, rfl⟩ := List.mem_map.1 hinside
    obtain ⟨source, -, hbecome, hsame, -⟩ := horigin e he
    rw [processed_of_meta (hsame.trans htag)] at hbecome
    split at hbecome
    · cases hbecome
    · next hkept => exact Option.some.inj hbecome ▸ hkept
  · obtain ⟨source, hsource, hbecome, hsame, hchildren⟩ := horigin e he
    have hscript := hsame.trans htag
    rw [processed_of_script hscript] at hbecome
    split at hbecome
    · cases hbecome
    · next hkept =>
      have hnone : source.children.elements = [] := by
        refine hraw source hsource ?_
        rw [hscript]
        decide
      rw [Forest.edit_of_elements_eq_nil hnone] at hchildren
      obtain ⟨head, children⟩ := e
      obtain rfl : source.head.drop useAttribute = head := Option.some.inj hbecome
      exact ⟨(isSpent_drop hchildren).trans (Bool.eq_false_iff.2 hkept), has_drop _ _⟩

theorem parameter?_of_isTaken {head : Head} (h : IsTaken target head) :
    parameter? target head = none := by
  rw [parameter?_eq h.1, if_pos h]

/-- What an element tells as a parameter is told by what it becomes. -/
theorem parameter?_processed (e : Element) :
    ((processed target e).bind fun head =>
        if head.tag = "meta" then parameter? target head else none) =
      if e.head.tag = "meta" then parameter? target e.head else none := by
  by_cases htag : e.head.tag = "meta"
  · rw [processed_of_meta htag, if_pos htag]
    by_cases htaken : IsTaken target e.head
    · rw [if_pos htaken, parameter?_of_isTaken htaken]
      rfl
    · rw [if_neg htaken, Option.bind_some, if_pos htag]
  · rw [if_neg htag]
    cases hbecome : processed target e with
    | none => rfl
    | some head => rw [Option.bind_some, tag_processed hbecome, if_neg htag]

theorem filterMap_metas (ht : page.IsTree) :
    (metas page).filterMap (parameter? target) = page.inside.filterMap fun head =>
      if head.tag = "meta" then parameter? target head else none := by
  have hlower : Text.lower "meta" = "meta" := by decide
  rw [metas, Page.heads_withTag ht, List.filterMap_filter, hlower]
  simp only [decide_eq_true_eq]

/-- The parameters are told by elements that stay. -/
theorem parameters_of_root_eq (ht : page.IsTree) (hv : page.root.children.VoidsEmpty)
    (hraw : ∀ e ∈ page.root.children.elements, e.HoldsText) (htree : next.IsTree)
    (hroot : next.root = ⟨page.root.head, page.root.children.edit (processed target)⟩) :
    (metas next).filterMap (parameter? target) = (metas page).filterMap (parameter? target) := by
  have hheads : next.inside = page.root.children.elements.filterMap (processed target) := by
    rw [Page.inside, hroot]
    exact Forest.heads_edit _ fun e he => elements_of_processed hv hraw he
  rw [filterMap_metas htree, filterMap_metas ht, hheads, Page.inside, ← Forest.map_head_elements,
    List.filterMap_filterMap, List.filterMap_map]
  exact List.filterMap_congr fun e _ => parameter?_processed e

end

theorem parameters_foldl {ι : Type} {step : Facts → ι → Facts}
    (hstep : ∀ facts item, (step facts item).parameters = facts.parameters) :
    ∀ (items : List ι) (facts : Facts), (items.foldl step facts).parameters = facts.parameters
  | [], _ => rfl
  | item :: items, facts => (parameters_foldl hstep items _).trans (hstep facts item)

/-- Declarations give no parameters. -/
theorem parameters_declareAll (facts : Facts) (head : Head) :
    (declareAll facts head).parameters = facts.parameters := by
  refine parameters_foldl (fun facts name => ?_) (declaredNames head) facts
  unfold Facts.declareAt
  split <;> rfl

/-- The parameters that the build reads off a page. -/
theorem parameters_readPage {page : Page} (ht : page.IsTree) (hv : page.root.children.VoidsEmpty)
    {facts : Facts} (hf : facts.components = []) :
    (readPage page facts).2.parameters =
      facts.parameters.putAll ((metas page).filterMap (parameter? facts.target)) := by
  have htree := (keepsScripts_followDirectives ht hv hf).isTree
  rw [readPage, (facts_readDeclarations htree _).2, parameters_foldl parameters_declareAll,
    facts_followDirectives ht, parameters_foldl_followHead]

/-- The page is left as it was read when it is read again, and it tells the same parameters in the
same order, and nothing else. -/
theorem readPage_readPage {text : String} {page : Page} (h : Page.ofMarkup text = .ok page)
    (target : Target) (flags again : List String) :
    readPage (readPage page (.start target flags)).1 (.start target again) =
      ((readPage page (.start target flags)).1,
        { Facts.start target again with
          parameters := (readPage page (.start target flags)).2.parameters }) := by
  obtain ⟨ht, hv⟩ := Page.isTree_ofMarkup h
  have hraw : ∀ e ∈ page.root.children.elements, e.HoldsText := by
    obtain ⟨document, hparse, rfl⟩ := map_eq_ok h
    exact holdsText_of_parse hparse
  have htree : (readPage page (.start target flags)).1.IsTree :=
    (facts_readDeclarations (keepsScripts_followDirectives ht hv rfl).isTree _).1
  have hroot : (readPage page (.start target flags)).1.root =
      ⟨page.root.head, page.root.children.edit (processed target)⟩ :=
    root_eq_edit_processed ht hv rfl
  have hparameters : (readPage page (.start target flags)).2.parameters =
      Keyed.putAll [] ((metas page).filterMap (parameter? target)) := parameters_readPage ht hv rfl
  -- all that matters of the first reading is known by now
  generalize readPage page (.start target flags) = result at htree hroot hparameters ⊢
  have hsame := parameters_of_root_eq ht hv hraw htree hroot
  have hread : IsRead (Facts.start target again).target result.1 :=
    isRead_of_root_eq hraw htree hroot
  rw [readPage_of_isRead hread, hparameters, ← hsame]
  rfl

/-- A page with a flag that is set twice, a parameter that is given twice, and scripts, one of which
declares a component and stays. -/
def repeatedMarkup : String :=
  "<meta name=a content=1><meta name=embedHtml content=true><meta NAME=b content='2'>" ++
    "<meta name=a><meta name=embedHtml content=true><script data-slp-use=A> </script>" ++
    "<script data-slp-use='B' data-c>d</script><p>e"

/-- The page that stays. -/
def repeatedOutput : String :=
  "<meta name=a content=1><meta NAME=b content='2'><meta name=a><script data-c>d</script><p>e"

theorem readPage_readPage_repeated :
    ∃ page, Page.ofMarkup repeatedMarkup = .ok page ∧
      (readPage page (.start .js [])).1.html = repeatedOutput ∧
      (readPage page (.start .js [])).2.parameters = [("a", ""), ("b", "2")] ∧
      readPage (readPage page (.start .js [])).1 (.start .js ["d"]) =
        ((readPage page (.start .js [])).1,
          { Facts.start .js ["d"] with
            parameters := (readPage page (.start .js [])).2.parameters }) := by
  have hrun : ((Page.ofMarkup repeatedMarkup).toOption.any fun page =>
      (readPage page (.start .js [])).1.html == repeatedOutput &&
        (readPage page (.start .js [])).2.parameters == [("a", ""), ("b", "2")]) = true := by
    decide +kernel
  obtain ⟨page, hread, hresult⟩ := exists_ok_of_any hrun
  rw [Bool.and_eq_true, beq_iff_eq, beq_iff_eq] at hresult
  exact ⟨page, hread, hresult.1, hresult.2, readPage_readPage hread .js [] ["d"]⟩

end PageCompiler.Build
