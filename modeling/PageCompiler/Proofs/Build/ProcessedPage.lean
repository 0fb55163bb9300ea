import PageCompiler.Proofs.Build.Directives
import PageCompiler.Proofs.Markup.Editing

/-!
# What the build changes in the page

Directives and declarations change the page one element at a time, and they may find an element in
the page or in one that was removed. All in all they make a single edit of the source
(`root_readDeclarations`) : directives that are not for the application and scripts that do nothing
are dropped, a declaring script loses the declaring attribute, and every other node stays as it is
written.

The invariant is that the page is the source edited at the elements visited so far (`Reached`). An
element that is visited has the head it has in the source and its own children edited in the same
way, and these hold as much text as before, since only elements of blank text are dropped.
-/

namespace PageCompiler.Build

open Markup

/-! ## The edit -/

/-- A directive to the build itself : a compile-time flag or, for a script, the exposed name. -/
def IsTaken (target : Target) (head : Head) : Prop :=
  head.tag = "meta" ∧ ∃ name ∈ head.get? "name",
    head.get? "content" = some flagContent ∨
      (name ∈ reservedFlags ∧ head.get? "content" = some "true") ∨
      (target = .js ∧ name = exposedNameKey)

/-- A script that neither loads nor holds anything. -/
def IsEmptyScript (e : Element) : Prop :=
  e.head.tag = "script" ∧ (e.head.get? "src" = none ∨ e.head.get? "src" = some "") ∧
    ∀ c ∈ e.children.text.toList, Text.isBlank c = true

instance (target : Target) (head : Head) : Decidable (IsTaken target head) :=
  inferInstanceAs (Decidable (_ ∧ _))

instance (e : Element) : Decidable (IsEmptyScript e) :=
  have : Decidable (∀ c ∈ e.children.text.toList, Text.isBlank c = true) := List.decidableBAll _ _
  inferInstanceAs (Decidable (_ ∧ _ ∧ _))

/-- What becomes of an element : directives to the build and empty scripts are dropped, and a script
that declares components loses that attribute and with it the start tag as it was written. -/
def processed (target : Target) (e : Element) : Option Head :=
  if IsTaken target e.head ∨ IsEmptyScript e then none
  else if e.head.tag = "script" ∧ e.head.has useAttribute then
    some { e.head with
      attributes := e.head.attributes.filter fun entry => entry.1 ≠ useAttribute
      written := none }
  else some e.head

theorem id_processed {target : Target} {e : Element} {head : Head}
    (h : processed target e = some head) : head.id = e.head.id := by
  unfold processed at h
  split at h
  · cases h
  · split at h <;> obtain rfl := Option.some.inj h <;> rfl

/-! ## One element -/

/-- The build takes what sets a flag or asks for an exposed name. -/
theorem isTaken_iff {target : Target} {head : Head} (htag : head.tag = "meta") {name : String}
    (hname : head.get? "name" = some name) :
    IsTaken target head ↔ SetsFlag head name ∨ target = .js ∧ AsksName head := by
  constructor
  · rintro ⟨-, other, hother, htaken⟩
    obtain rfl := Option.some.inj (hname.symm.trans hother)
    by_cases hsets : SetsFlag head name
    · exact .inl hsets
    · have hno := fun h => hsets ⟨hname, h⟩
      obtain hflag | ⟨hreserved, hflag⟩ | ⟨htarget, hkey⟩ := htaken
      · exact absurd (.inl hflag) hno
      · exact absurd (.inr ⟨hflag, hreserved⟩) hno
      · exact .inr ⟨htarget, (asksName_iff hname hsets).2 hkey⟩
  · rintro (⟨-, hflag | ⟨hflag, hreserved⟩⟩ | ⟨htarget, hasks⟩)
    · exact ⟨htag, name, hname, .inl hflag⟩
    · exact ⟨htag, name, hname, .inr (.inl ⟨hreserved, hflag⟩)⟩
    · exact ⟨htag, _, hasks.1, .inr (.inr ⟨htarget, rfl⟩)⟩

/-- The build drops just the directives that are not parameters. -/
theorem stays_of_directive? {target : Target} {head : Head} (htag : head.tag = "meta")
    {directive : Directive} (h : directive? target head = some directive) :
    directive.stays = false ↔ IsTaken target head := by
  cases hname : head.get? "name" with
  | none => simp [directive?, hname] at h
  | some name =>
    rw [directive?_eq hname, Option.some.injEq] at h
    rw [isTaken_iff htag hname, ← h]
    by_cases hsets : SetsFlag head name
    · rw [if_pos hsets]
      exact iff_of_true rfl (.inl hsets)
    · rw [if_neg hsets]
      by_cases hasks : target = .js ∧ AsksName head
      · rw [if_pos hasks]
        exact iff_of_true rfl (.inr hasks)
      · rw [if_neg hasks]
        exact iff_of_false (fun hstays => by cases hstays) fun h => h.elim hsets hasks

theorem not_isTaken_of_directive? {target : Target} {head : Head}
    (h : directive? target head = none) : ¬IsTaken target head := by
  rintro ⟨-, name, hname, -⟩
  rw [directive?_eq hname] at h
  cases h

theorem isSpent_iff {e : Element} (htag : e.head.tag = "script") :
    isSpent e = true ↔ IsEmptyScript e := by
  unfold isSpent IsEmptyScript
  rw [Bool.and_eq_true, beq_iff_eq, Text.isBlankText, List.all_eq_true]
  cases hsrc : e.head.get? "src" <;> simp [htag]

theorem not_isEmptyScript_of_meta {e : Element} (htag : e.head.tag = "meta") :
    ¬IsEmptyScript e := by
  rintro ⟨hscript, -⟩
  rw [htag] at hscript
  exact absurd hscript (by decide)

theorem not_isTaken_of_script {target : Target} {head : Head} (htag : head.tag = "script") :
    ¬IsTaken target head := by
  rintro ⟨hmeta, -⟩
  rw [htag] at hmeta
  exact absurd hmeta (by decide)

/-- A directive stays as it is or goes. -/
theorem processed_of_meta {target : Target} {e : Element} (htag : e.head.tag = "meta") :
    processed target e = if IsTaken target e.head then none else some e.head := by
  have hscript : e.head.tag ≠ "script" := by
    rw [htag]
    decide
  simp only [processed, not_isEmptyScript_of_meta htag, or_false, hscript, false_and, if_false]

/-- A script goes or loses the declaring attribute. -/
theorem processed_of_script {target : Target} {e : Element} (htag : e.head.tag = "script") :
    processed target e = if isSpent e then none else some (e.head.drop useAttribute) := by
  simp only [processed, not_isTaken_of_script htag, false_or, ← isSpent_iff htag, htag, true_and]
  split
  · rfl
  · unfold Head.drop
    split <;> rfl

theorem processed_of_other {target : Target} {e : Element} (hmeta : e.head.tag ≠ "meta")
    (hscript : e.head.tag ≠ "script") : processed target e = some e.head := by
  have hkept : ¬(IsTaken target e.head ∨ IsEmptyScript e) :=
    fun h => h.elim (fun h => hmeta h.1) fun h => hscript h.1
  rw [processed, if_neg hkept, if_neg fun h => hscript h.1]

/-- What is dropped holds no text but blanks. -/
theorem isBlankText_of_processed {target : Target} {forest : Forest} (hv : forest.VoidsEmpty)
    {e : Element} (he : e ∈ forest.elements) (h : processed target e = none) :
    Text.isBlankText e.children.text = true := by
  unfold processed at h
  split at h
  · next hdropped =>
    rcases hdropped with hmeta | hscript
    · rw [hv e he (isVoid_of_meta hmeta.1)]
      rfl
    · exact List.all_eq_true.2 hscript.2.2
  · split at h <;> cases h

/-! ## The elements visited so far -/

/-- What became of an element by the time the ones with some numbers were visited. -/
def visited (target : Target) (ids : List Nat) (e : Element) : Option Head :=
  if e.head.id ∈ ids then processed target e else some e.head

/-- The page is its source, edited at the elements with some numbers. -/
structure Reached (target : Target) (source : Page) (ids : List Nat) (page : Page) : Prop where
  isTree : page.IsTree
  root_eq : page.root = ⟨source.root.head, source.root.children.edit (visited target ids)⟩

theorem id_visited {target : Target} {ids : List Nat} {e : Element} {head : Head}
    (h : visited target ids e = some head) : head.id = e.head.id := by
  unfold visited at h
  split at h
  · exact id_processed h
  · rw [← Option.some.inj h]

theorem Reached.start {target : Target} {source : Page} (hs : source.IsTree) :
    Reached target source [] source := by
  have hnone : visited target [] = fun e => some e.head :=
    funext fun e => if_neg List.not_mem_nil
  refine ⟨hs, ?_⟩
  rw [hnone, Forest.edit_head]

section

variable {target : Target} {source page next : Page} {ids : List Nat} {id : Nat}

/-- An element of the source that is still in the page and was not visited is found with its own
head. -/
theorem Reached.element?_eq (hs : source.IsTree) (h : Reached target source ids page)
    (hid : id ∉ ids) {e : Element} (he : e ∈ source.root.children.elements) (heid : e.head.id = id)
    (hin : id ∈ page.root.children.ids) :
    page.element? id = some ⟨e.head, e.children.edit (visited target ids)⟩ := by
  obtain ⟨head, hmem, hheadid⟩ := Forest.mem_ids.1 hin
  rw [← Forest.map_head_elements] at hmem
  obtain ⟨found, hfound, rfl⟩ := List.mem_map.1 hmem
  rw [← hheadid, Page.element?_of_mem h.isTree hfound]
  -- what stands in the page comes from an element of the source with the same number
  rw [h.root_eq] at hfound
  obtain ⟨origin, horigin, hbecome, hchildren⟩ := Forest.mem_elements_edit _ hfound
  have hsame : origin = e := Forest.eq_of_mem_elements (Page.nodup_inside hs).2 horigin he
    ((id_visited hbecome).symm.trans (hheadid.trans heid.symm))
  rw [hsame, visited, if_neg (heid ▸ hid)] at hbecome
  rw [Option.some.inj hbecome, ← hsame, ← hchildren]

/-- One element more is visited when the page changes at that element only, as the source does. -/
theorem Reached.visit (hs : source.IsTree) (h : Reached target source ids page) (hid : id ∉ ids)
    (htree : next.IsTree) {after : Head → Option Head}
    (hroot : next.root = ⟨page.root.head, page.root.children.edit (Forest.atNumber id after)⟩)
    (hafter : ∀ e ∈ source.root.children.elements, e.head.id = id →
      page.element? id = some ⟨e.head, e.children.edit (visited target ids)⟩ →
        processed target e = after e.head) :
    Reached target source (id :: ids) next := by
  refine ⟨htree, ?_⟩
  have hother : ∀ e : Element, e.head.id ≠ id →
      visited target (id :: ids) e = visited target ids e := by
    intro e hne
    simp only [visited, List.mem_cons, hne, false_or]
  have hkept : ∀ e : Element, e.head.id = id → visited target ids e = some e.head :=
    fun e he => if_neg (he ▸ hid)
  rw [hroot]
  by_cases hin : id ∈ page.root.children.ids
  · rw [h.root_eq, Forest.edit_edit]
    refine congrArg (Element.mk _) (Forest.edit_congr _ fun e he => ?_)
    by_cases heid : e.head.id = id
    · have hvisited : visited target (id :: ids) e = processed target e :=
        if_pos (heid ▸ List.mem_cons_self)
      rw [hkept e heid, Option.bind_some, if_pos heid, hvisited,
        hafter e he heid (h.element?_eq hs hid he heid hin)]
    · rw [hother e heid]
      cases hbecome : visited target ids e with
      | none => rfl
      | some head => rw [Option.bind_some, if_neg (id_visited hbecome ▸ heid)]
  · rw [Forest.edit_atNumber_of_not_mem hin, h.root_eq]
    rw [h.root_eq] at hin
    rw [Forest.edit_eq_of_not_mem _ hin (fun e _ => hkept e) fun e _ => hother e]

theorem root_remove_eq_edit (ht : page.IsTree) (id : Nat) :
    (page.remove id).root =
      ⟨page.root.head, page.root.children.edit (Forest.atNumber id fun _ => none)⟩ := by
  rw [Page.root_remove ht, Forest.without_eq_edit]

theorem root_eq_edit (page : Page) (id : Nat) :
    page.root = ⟨page.root.head, page.root.children.edit (Forest.atNumber id some)⟩ := by
  rw [Forest.edit_atNumber_some]

/-- Dropping an attribute inside the document is an edit. -/
theorem root_dropAttribute {id : Nat} (hid : page.root.head.id ≠ id) (name : String) :
    (page.dropAttribute id name).root =
      ⟨page.root.head, page.root.children.edit
        (Forest.atNumber id fun head => some (head.drop name))⟩ := by
  rw [← Forest.modify_eq_edit id fun head => head.drop name]
  simp only [Page.dropAttribute, Page.modify, Element.modify, hid, if_false]

/-! ## Directives and scripts -/

/-- Following a directive leaves the page as it is, or it removes the element, if that is taken. -/
theorem followElement_cases (state : Page × Facts) (id : Nat) :
    ((followElement state id).1 = state.1 ∧
      ∀ element ∈ state.1.element? id, element.head.tag = "meta" →
        ¬IsTaken state.2.target element.head) ∨
    ((followElement state id).1 = state.1.remove id ∧
      ∀ element ∈ state.1.element? id, element.head.tag = "meta" →
        IsTaken state.2.target element.head) := by
  unfold followElement
  cases hfound : state.1.element? id with
  | none => exact .inl ⟨rfl, fun _ hm => absurd hm (Option.not_mem_none _)⟩
  | some element =>
    dsimp only
    cases hdirective : directive? state.2.target element.head with
    | none =>
      refine .inl ⟨rfl, fun other hm _ => ?_⟩
      rw [← Option.some.inj hm]
      exact not_isTaken_of_directive? hdirective
    | some directive =>
      dsimp only
      cases hstays : directive.stays with
      | true =>
        refine .inl ⟨if_pos rfl, fun other hm htag htaken => ?_⟩
        obtain rfl := Option.some.inj hm
        rw [(stays_of_directive? htag hdirective).2 htaken] at hstays
        cases hstays
      | false =>
        refine .inr ⟨if_neg Bool.false_ne_true, fun other hm htag => ?_⟩
        obtain rfl := Option.some.inj hm
        exact (stays_of_directive? htag hdirective).1 hstays

/-- Following a directive visits its element. -/
theorem Reached.followElement (hs : source.IsTree) {state : Page × Facts}
    (h : Reached target source ids state.1) (htarget : state.2.target = target) {head : Head}
    (hmem : head ∈ source.inside) (htag : head.tag = "meta") (hid : head.id ∉ ids) :
    Reached target source (head.id :: ids) (followElement state head.id).1 := by
  have hmeta : ∀ e ∈ source.root.children.elements, e.head.id = head.id → e.head.tag = "meta" := by
    intro e he heid
    rw [Page.eq_of_mem_inside hs (Forest.head_mem_heads he) hmem heid, htag]
  obtain ⟨hpage, hkept⟩ | ⟨hpage, htaken⟩ := followElement_cases state head.id
  · rw [hpage]
    refine h.visit hs hid h.isTree (root_eq_edit _ _) fun e he heid hsource => ?_
    have hnot := hkept _ hsource (hmeta e he heid)
    rw [htarget] at hnot
    rw [processed_of_meta (hmeta e he heid), if_neg hnot]
  · rw [hpage]
    refine h.visit hs hid (Page.isTree_remove h.isTree _) (root_remove_eq_edit h.isTree _)
      fun e he heid hsource => ?_
    have hgone := htaken _ hsource (hmeta e he heid)
    rw [htarget] at hgone
    rw [processed_of_meta (hmeta e he heid), if_pos hgone]

/-- A script holds as much text as in the source. -/
theorem isSpent_visited (hv : source.root.children.VoidsEmpty) {e : Element}
    (he : e ∈ source.root.children.elements) :
    isSpent ⟨e.head, e.children.edit (visited target ids)⟩ = isSpent e := by
  have htext : Text.isBlankText (e.children.edit (visited target ids)).text =
      Text.isBlankText e.children.text := by
    refine Forest.isBlankText_edit e.children fun inner hinner hgone => ?_
    unfold visited at hgone
    split at hgone
    · exact isBlankText_of_processed hv (Forest.elements_subset _ he hinner) hgone
    · cases hgone
  unfold isSpent
  rw [htext]

/-- Reading a script visits it. -/
theorem Reached.readScript (hs : source.IsTree) (hv : source.root.children.VoidsEmpty)
    {state : Page × Facts} (h : Reached target source ids state.1) {head : Head}
    (hmem : head ∈ source.inside) (htag : head.tag = "script") (hid : head.id ∉ ids) :
    Reached target source (head.id :: ids) (readScript state head.id).1 := by
  have hprocessed : ∀ e ∈ source.root.children.elements, e.head.id = head.id →
      processed target e = if isSpent e then none else some (e.head.drop useAttribute) := by
    intro e he heid
    have hsame := Page.eq_of_mem_inside hs (Forest.head_mem_heads he) hmem heid
    exact processed_of_script (hsame ▸ htag)
  unfold Build.readScript
  split
  · next hnone =>
    refine h.visit hs hid h.isTree (root_eq_edit _ _) fun e he heid hsource => ?_
    rw [hnone] at hsource
    cases hsource
  · next script hfound =>
    have hspent : ∀ e ∈ source.root.children.elements,
        state.1.element? head.id = some ⟨e.head, e.children.edit (visited target ids)⟩ →
          isSpent script = isSpent e := by
      intro e he hsource
      rw [Option.some.inj (hfound.symm.trans hsource), isSpent_visited hv he]
    split
    · next hgone =>
      refine h.visit hs hid (Page.isTree_remove h.isTree _)
        (root_remove_eq_edit h.isTree _) fun e he heid hsource => ?_
      rw [hprocessed e he heid, ← hspent e he hsource, if_pos hgone]
    · next hkept =>
      have hroot : state.1.root.head.id ≠ head.id := by
        rw [h.root_eq]
        exact fun he => (Page.nodup_inside hs).1 (Forest.mem_ids.2 ⟨head, hmem, he.symm⟩)
      refine h.visit hs hid (Page.isTree_dropAttribute h.isTree _ _)
        (root_dropAttribute hroot _) fun e he heid hsource => ?_
      rw [hprocessed e he heid, ← hspent e he hsource, if_neg hkept]

theorem target_followElement (state : Page × Facts) (id : Nat) :
    (Build.followElement state id).2.target = state.2.target :=
  (reads_followElement state id).target

/-! ## All of them -/

/-- A run visits one element after the other. -/
theorem visits_foldl (holds : List Nat → Page × Facts → Prop)
    {step : Page × Facts → Nat → Page × Facts} {tag : String}
    (hstep : ∀ {ids : List Nat} {state : Page × Facts} {head : Head}, holds ids state →
      head ∈ source.inside → head.tag = tag → head.id ∉ ids →
        holds (head.id :: ids) (step state head.id)) :
    ∀ (heads : List Head) (state : Page × Facts) {ids : List Nat},
      (∀ head ∈ heads, head ∈ source.inside ∧ head.tag = tag) →
      (heads.map Head.id ++ ids).Nodup → holds ids state →
        holds ((heads.map Head.id).reverse ++ ids) ((heads.map Head.id).foldl step state)
  | [], _, _, _, _, h => h
  | head :: heads, state, ids, htag, hn, h => by
    obtain ⟨hmem, hhead⟩ := htag head List.mem_cons_self
    obtain ⟨hnew, hn⟩ := List.nodup_cons.1 hn
    have hnext := hstep h hmem hhead fun hid => hnew (List.mem_append_right _ hid)
    have hrun := visits_foldl holds hstep heads _
      (fun other ho => htag other (List.mem_cons_of_mem _ ho))
      (List.perm_middle.nodup_iff.2 (List.nodup_cons.2 ⟨hnew, hn⟩)) hnext
    rwa [List.map_cons, List.reverse_cons, List.append_assoc]

/-- Once all directives and scripts were visited, every element has become what it should. -/
theorem Reached.root_eq_processed (h : Reached target source ids page)
    (hmeta : ∀ head ∈ source.inside, head.tag = "meta" → head.id ∈ ids)
    (hscript : ∀ head ∈ source.inside, head.tag = "script" → head.id ∈ ids) :
    page.root = ⟨source.root.head, source.root.children.edit (processed target)⟩ := by
  rw [h.root_eq]
  refine congrArg (Element.mk _) (Forest.edit_congr _ fun e he => ?_)
  have hmem := Forest.head_mem_heads he
  unfold visited
  split
  · rfl
  · next hid =>
    exact (processed_of_other (fun htag => hid (hmeta _ hmem htag))
      fun htag => hid (hscript _ hmem htag)).symm

/-- The heads of the `meta` elements in the document, in document order. -/
def metas (page : Page) : List Head :=
  (page.root.withTag "meta").map Element.head

theorem followDirectives_eq (page : Page) (facts : Facts) :
    followDirectives page facts = ((metas page).map Head.id).foldl followElement (page, facts) := by
  rw [metas, List.map_map]
  rfl

theorem mem_metas (ht : page.IsTree) {head : Head} :
    head ∈ metas page ↔ head ∈ page.inside ∧ head.tag = "meta" := by
  rw [metas, Page.heads_withTag ht, List.mem_filter, decide_eq_true_eq]
  exact Iff.rfl

theorem mem_scripts (ht : page.IsTree) {head : Head} :
    head ∈ scripts page ↔ head ∈ page.inside ∧ head.tag = "script" := by
  rw [scripts, Page.heads_withTag ht, List.mem_filter, decide_eq_true_eq]
  exact Iff.rfl

theorem nodup_withTag (ht : page.IsTree) (tag : String) :
    (((page.root.withTag tag).map Element.head).map Head.id).Nodup := by
  rw [Page.heads_withTag ht]
  exact (List.filter_sublist.map Head.id).nodup (Page.nodup_inside ht).2

/-- No element is visited both as a directive and as a script. -/
theorem nodup_scripts_append (ht : page.IsTree) :
    ((scripts page).map Head.id ++ ((metas page).map Head.id).reverse).Nodup := by
  refine List.nodup_append.2
    ⟨nodup_withTag ht "script", List.nodup_reverse.2 (nodup_withTag ht "meta"), ?_⟩
  intro id hscript other hmeta hsame
  obtain ⟨script, hs, rfl⟩ := List.mem_map.1 hscript
  obtain ⟨directive, hd, rfl⟩ := List.mem_map.1 (List.mem_reverse.1 hmeta)
  obtain ⟨hs, hscripttag⟩ := (mem_scripts ht).1 hs
  obtain ⟨hd, hmetatag⟩ := (mem_metas ht).1 hd
  rw [Page.eq_of_mem_inside ht hs hd hsame, hmetatag] at hscripttag
  exact absurd hscripttag (by decide)

end

/-- Following the directives visits them. -/
theorem reached_followDirectives {page : Page} (ht : page.IsTree) (facts : Facts) :
    Reached facts.target page ((metas page).map Head.id).reverse
      (followDirectives page facts).1 := by
  have hnodup : ((metas page).map Head.id ++ []).Nodup := by
    rw [List.append_nil]
    exact nodup_withTag ht "meta"
  have hrun := visits_foldl
    (fun ids state => state.2.target = facts.target ∧ Reached facts.target page ids state.1)
    (fun h hmem htag hid => ⟨(target_followElement _ _).trans h.1,
      h.2.followElement ht h.1 hmem htag hid⟩)
    (metas page) (page, facts) (fun head => (mem_metas ht).1) hnodup ⟨rfl, .start ht⟩
  rw [List.append_nil] at hrun
  rw [followDirectives_eq]
  exact hrun.2

/-- In a tree directives and declarations make one edit. -/
theorem root_eq_edit_processed {page : Page} (ht : page.IsTree)
    (hv : page.root.children.VoidsEmpty) {facts : Facts} (hf : facts.components = []) :
    (readDeclarations (followDirectives page facts).1 (followDirectives page facts).2).1.root =
      ⟨page.root.head, page.root.children.edit (processed facts.target)⟩ := by
  -- directives leave the scripts alone, so those to be read are the ones of the source
  have hscripts := (keepsScripts_followDirectives ht hv hf).scripts_eq
  have hread : Reached facts.target page
      (((scripts page).map Head.id).reverse ++ ((metas page).map Head.id).reverse)
      (readDeclarations (followDirectives page facts).1 (followDirectives page facts).2).1 := by
    have hrun := visits_foldl (fun ids state => Reached facts.target page ids state.1)
      (fun h hmem htag hid => h.readScript ht hv hmem htag hid) (scripts page)
      (followDirectives page facts) (fun head => (mem_scripts ht).1) (nodup_scripts_append ht)
      (reached_followDirectives ht facts)
    rwa [readDeclarations_eq, hscripts]
  refine hread.root_eq_processed (fun head hmem htag => ?_) fun head hmem htag => ?_
  · refine List.mem_append_right _ (List.mem_reverse.2 (List.mem_map_of_mem ?_))
    exact (mem_metas ht).2 ⟨hmem, htag⟩
  · refine List.mem_append_left _ (List.mem_reverse.2 (List.mem_map_of_mem ?_))
    exact (mem_scripts ht).2 ⟨hmem, htag⟩

/-- Following the directives of a page and reading its declarations makes one edit : directives to
the build and empty scripts are gone, a declaring script has lost the declaring attribute and is
spelled anew, and every other node is as it was. -/
theorem root_readDeclarations {text : String} {page : Page} (h : Page.ofMarkup text = .ok page)
    {facts : Facts} (hf : facts.components = []) :
    (readDeclarations (followDirectives page facts).1 (followDirectives page facts).2).1.root =
      ⟨page.root.head, page.root.children.edit (processed facts.target)⟩ := by
  obtain ⟨ht, hv⟩ := Page.isTree_ofMarkup h
  exact root_eq_edit_processed ht hv hf

/-- A page with a flag, a parameter, an empty script and a script that loads something. -/
def mixedMarkup : String :=
  "<meta name=a content=\"compile-flag\"><META name='b'>c<script data-slp-use=D> </script>" ++
    "e<script src='f'  data-slp-use=G data-h></script><p Class=i>"

/-- The page without the flag, the empty script and the declaring attribute. -/
def mixedOutput : String :=
  "<META name='b'>ce<script src=\"f\" data-h></script><p Class=i>"

theorem root_readDeclarations_mixed :
    ∃ page, Page.ofMarkup mixedMarkup = .ok page ∧
      (page.root.children.edit (processed .js)).html = mixedOutput ∧
      (readDeclarations (followDirectives page (.start .js [])).1
        (followDirectives page (.start .js [])).2).1.root =
          ⟨page.root.head, page.root.children.edit (processed .js)⟩ := by
  have hrun : ((Page.ofMarkup mixedMarkup).toOption.any fun page =>
      (page.root.children.edit (processed .js)).html == mixedOutput) = true := by
    decide +kernel
  cases hread : Page.ofMarkup mixedMarkup with
  | error e =>
    rw [hread] at hrun
    cases hrun
  | ok page =>
    rw [hread] at hrun
    exact ⟨page, rfl, eq_of_beq hrun, root_readDeclarations hread rfl⟩

end PageCompiler.Build
