import PageCompiler.Proofs.Build.Rereading

/-!
# What the directives of a page tell

Every `meta` element with a name is of one of three kinds (`directive?_eq`), so flags, exposed name
and warnings are each told by the elements of one kind. What the facts hold after one element gives
what they hold after all elements of a page.

The parameters are told by the elements that stay in the page, and those are the ones that are not
for the build (`metas_followDirectives`); so they can be read off the page that is left
(`facts_of_followDirectives`).
-/

namespace PageCompiler.Build

open Markup

/-! ## One directive -/

/-- What is said about a directive that asks for a blank name. -/
def blankNameMessage : String :=
  "Invalid jsExposedName value, the default exposed name is kept"

section

variable {facts : Facts} {head : Head}

theorem mem_flags_followHead {flag : String} :
    flag ∈ (followHead facts head).flags ↔ flag ∈ facts.flags ∨ SetsFlag head flag := by
  cases hname : head.get? "name" with
  | none =>
    have hno : ¬SetsFlag head flag := fun h => by cases hname.symm.trans h.1
    rw [iff_false_intro hno, or_false]
    simp only [followHead, directive?, hname]
  | some name =>
    rw [setsFlag_iff hname, followHead, directive?_eq hname]
    by_cases hsets : SetsFlag head name
    · rw [if_pos hsets, and_iff_left hsets]
      exact Facts.mem_flags_setFlag
    · have hno : ¬(name = flag ∧ SetsFlag head name) := fun h => hsets h.2
      rw [if_neg hsets, iff_false_intro hno, or_false]
      dsimp only
      split
      · split <;> rfl
      · rfl

/-- A directive that asks for an exposed name does nothing else. -/
theorem followHead_of_asksName (htarget : facts.target = .js) (h : AsksName head) :
    followHead facts head = facts.follow (.exposedName
      (if Text.isBlankText (content head) then none else some (Text.strip (content head)))) := by
  rw [followHead, directive?_eq h.1, if_neg h.2, if_pos ⟨htarget, h⟩]

/-- Any other leaves the exposed name alone and gives no warning. -/
theorem followHead_of_not_asksName (h : ¬(facts.target = .js ∧ AsksName head)) :
    (followHead facts head).exposedNameOverride = facts.exposedNameOverride ∧
      (followHead facts head).warnings = facts.warnings := by
  cases hname : head.get? "name" with
  | none => simp only [followHead, directive?, hname, and_self]
  | some name =>
    rw [followHead, directive?_eq hname, if_neg h]
    by_cases hsets : SetsFlag head name
    · rw [if_pos hsets]
      dsimp only [Facts.follow]
      rw [Facts.setFlag_eq]
      exact ⟨rfl, rfl⟩
    · rw [if_neg hsets]
      exact ⟨rfl, rfl⟩

/-- An exposed name that is asked for takes the place of an earlier one, unless it is blank. -/
theorem exposedNameOverride_followHead (htarget : facts.target = .js) :
    (followHead facts head).exposedNameOverride =
      (([head].filter fun head => AsksName head ∧
        Text.isBlankText (content head) = false).getLast?.map fun head =>
          Text.strip (content head)).or facts.exposedNameOverride := by
  by_cases hasks : AsksName head
  · rw [followHead_of_asksName htarget hasks]
    cases hblank : Text.isBlankText (content head) with
    | true => simp [hblank, Facts.follow, Facts.warn, Facts.say]
    | false => simp [hasks, hblank, Facts.follow]
  · rw [(followHead_of_not_asksName fun h => hasks h.2).1]
    simp [hasks]

theorem warnings_followHead (htarget : facts.target = .js) :
    (followHead facts head).warnings = facts.warnings ++
      ([head].filter fun head => AsksName head ∧
        Text.isBlankText (content head) = true).map fun _ => blankNameMessage := by
  by_cases hasks : AsksName head
  · rw [followHead_of_asksName htarget hasks]
    cases hblank : Text.isBlankText (content head) with
    | true =>
      simp [hasks, hblank, Facts.follow, Facts.warn, Facts.say, blankNameMessage]
      decide
    | false => simp [hblank, Facts.follow]
  · rw [(followHead_of_not_asksName fun h => hasks h.2).2]
    simp [hasks]

end

/-! ## All directives -/

theorem mem_flags_foldl_followHead {flag : String} : ∀ (heads : List Head) {facts : Facts},
    flag ∈ (heads.foldl followHead facts).flags ↔
      flag ∈ facts.flags ∨ ∃ head ∈ heads, SetsFlag head flag
  | [], _ => by simp
  | head :: heads, facts => by
    rw [List.foldl_cons, mem_flags_foldl_followHead heads, mem_flags_followHead, or_assoc]
    simp only [List.mem_cons, exists_eq_or_imp]

theorem exposedNameOverride_foldl_followHead : ∀ (heads : List Head) {facts : Facts},
    facts.target = .js →
      (heads.foldl followHead facts).exposedNameOverride =
        ((heads.filter fun head => AsksName head ∧
          Text.isBlankText (content head) = false).getLast?.map fun head =>
            Text.strip (content head)).or facts.exposedNameOverride
  | [], _, _ => rfl
  | head :: heads, facts, htarget => by
    have hsplit : head :: heads = [head] ++ heads := rfl
    rw [List.foldl_cons, exposedNameOverride_foldl_followHead heads
      ((target_followHead facts head).trans htarget), exposedNameOverride_followHead htarget,
      hsplit, List.filter_append, List.getLast?_append, Option.map_or,
      Option.or_assoc]

theorem warnings_foldl_followHead : ∀ (heads : List Head) {facts : Facts},
    facts.target = .js →
      (heads.foldl followHead facts).warnings = facts.warnings ++
        (heads.filter fun head => AsksName head ∧
          Text.isBlankText (content head) = true).map fun _ => blankNameMessage
  | [], facts, _ => (List.append_nil facts.warnings).symm
  | head :: heads, facts, htarget => by
    have hsplit : head :: heads = [head] ++ heads := rfl
    rw [List.foldl_cons, warnings_foldl_followHead heads
      ((target_followHead facts head).trans htarget), warnings_followHead htarget,
      hsplit, List.filter_append, List.map_append, List.append_assoc]

/-- Where the target is no script, no exposed name is asked for. -/
theorem foldl_followHead_of_native : ∀ (heads : List Head) {facts : Facts},
    facts.target = .native →
      (heads.foldl followHead facts).exposedNameOverride = facts.exposedNameOverride ∧
        (heads.foldl followHead facts).warnings = facts.warnings
  | [], _, _ => ⟨rfl, rfl⟩
  | head :: heads, facts, htarget => by
    have hno : ¬(facts.target = .js ∧ AsksName head) := fun h => by
      cases htarget.symm.trans h.1
    obtain ⟨hname, hwarnings⟩ := followHead_of_not_asksName hno
    obtain ⟨hnames, hall⟩ := foldl_followHead_of_native heads
      ((target_followHead facts head).trans htarget)
    exact ⟨hnames.trans hname, hall.trans hwarnings⟩

/-! ## The directives that stay -/

section

variable {target : Target} {page : Page}

/-- Of the elements of a page just the directives to the build go with its directives. -/
theorem visited_metas (ht : page.IsTree) {e : Element} (he : e ∈ page.root.children.elements) :
    visited target ((metas page).map Head.id).reverse e =
      if IsTaken target e.head then none else some e.head := by
  have hinside : e.head ∈ page.inside := Forest.head_mem_heads he
  unfold visited
  split
  · next hid =>
    obtain ⟨head, hhead, hsame⟩ := List.mem_map.1 (List.mem_reverse.1 hid)
    obtain ⟨hmem, htag⟩ := (mem_metas ht).1 hhead
    obtain rfl := Page.eq_of_mem_inside ht hmem hinside hsame
    exact processed_of_meta htag
  · next hid =>
    refine (if_neg fun htaken => hid (List.mem_reverse.2 (List.mem_map_of_mem ?_))).symm
    exact (mem_metas ht).2 ⟨hinside, htaken.1⟩

theorem metas_followDirectives (ht : page.IsTree) (hv : page.root.children.VoidsEmpty)
    (facts : Facts) :
    metas (followDirectives page facts).1 =
      (metas page).filter fun head => ¬IsTaken facts.target head := by
  obtain ⟨hnext, hroot⟩ := reached_followDirectives ht facts
  have hinside : (followDirectives page facts).1.inside =
      page.inside.filter fun head => ¬IsTaken facts.target head := by
    rw [Page.inside, hroot]
    refine (Forest.heads_edit _ fun e he hgone => ?_).trans ?_
    · rw [visited_metas ht he] at hgone
      split at hgone
      · next htaken =>
        rw [hv e he (isVoid_of_meta htaken.1)]
        rfl
      · cases hgone
    · rw [Page.inside, ← Forest.map_head_elements, ← List.filterMap_eq_filter,
        List.filterMap_map]
      refine List.filterMap_congr fun e he => ?_
      rw [visited_metas ht he, Function.comp_apply, Option.guard]
      split <;> simp_all
  rw [metas, metas, Page.heads_withTag hnext, Page.heads_withTag ht, hinside, List.filter_filter,
    List.filter_filter]
  exact List.filter_congr fun head _ => Bool.and_comm _ _

end

/-- What the directives of a page that was just read tell. A flag is set if it was set from outside
or by a directive. The parameters are gathered from the directives that stay in the page. For a
script the exposed name is the last one that is asked for and not blank, and every blank one gives a
warning; for the other target there is no such name and no warning. -/
theorem facts_of_followDirectives {text : String} {page : Page}
    (h : Page.ofMarkup text = .ok page) (target : Target) (flags : List String) :
    (∀ flag, flag ∈ (followDirectives page (.start target flags)).2.flags ↔
      flag ∈ flags ∨ ∃ head ∈ metas page, SetsFlag head flag) ∧
    Keyed.Gathers ((metas (followDirectives page (.start target flags)).1).filterMap named?)
      (followDirectives page (.start target flags)).2.parameters ∧
    (target = .js →
      (followDirectives page (.start target flags)).2.exposedNameOverride =
        ((metas page).filter fun head => AsksName head ∧
          Text.isBlankText (content head) = false).getLast?.map (fun head =>
            Text.strip (content head)) ∧
      (followDirectives page (.start target flags)).2.warnings =
        ((metas page).filter fun head => AsksName head ∧
          Text.isBlankText (content head) = true).map fun _ => blankNameMessage) ∧
    (target = .native →
      (followDirectives page (.start target flags)).2.exposedNameOverride = none ∧
      (followDirectives page (.start target flags)).2.warnings = []) := by
  obtain ⟨ht, hv⟩ := Page.isTree_ofMarkup h
  have hparameters : (metas (followDirectives page (.start target flags)).1).filterMap named? =
      (metas page).filterMap (parameter? target) := by
    rw [metas_followDirectives ht hv, List.filterMap_filter]
    refine List.filterMap_congr fun head hmem => ?_
    rw [parameter?_eq ((mem_metas ht).1 hmem).2]
    by_cases htaken : IsTaken target head <;> simp [htaken, Facts.start]
  rw [hparameters, facts_followDirectives ht, parameters_foldl_followHead]
  refine ⟨fun flag => ?_, Keyed.gathers_putAll _, fun htarget => ⟨?_, ?_⟩, fun htarget => ?_⟩
  · rw [mem_flags_foldl_followHead, Facts.start, List.mem_eraseDups]
  · rw [exposedNameOverride_foldl_followHead _ htarget]
    exact Option.or_none
  · exact warnings_foldl_followHead _ htarget
  · exact foldl_followHead_of_native _ htarget

/-- A page with a flag, a parameter that is given twice, and three exposed names, one of which is a
flag and one not given. -/
def directiveMarkup : String :=
  "<meta name=b content=1><meta name=jsExposedName content=' c '><meta name=jsExposedName>" ++
    "<meta name=jsExposedName content=compile-flag><meta name=b>"

theorem facts_of_followDirectives_mixed :
    ∃ page, Page.ofMarkup directiveMarkup = .ok page ∧
      (∀ flag ∈ ["f", "jsExposedName"],
        flag ∈ (followDirectives page (.start .js ["f"])).2.flags) ∧
      "b" ∉ (followDirectives page (.start .js ["f"])).2.flags ∧
      Keyed.Gathers [("b", "1"), ("b", "")]
        (followDirectives page (.start .js ["f"])).2.parameters ∧
      (followDirectives page (.start .js ["f"])).2.exposedNameOverride = some "c" ∧
      (followDirectives page (.start .js ["f"])).2.warnings = [blankNameMessage] ∧
      (followDirectives page (.start .native ["f"])).2.exposedNameOverride = none ∧
      (followDirectives page (.start .native ["f"])).2.warnings = [] := by
  have hrun : ((Page.ofMarkup directiveMarkup).toOption.any fun page => decide (
      (∀ flag ∈ ["f", "jsExposedName"],
        flag ∈ ["f"] ∨ ∃ head ∈ metas page, SetsFlag head flag) ∧
      ¬("b" ∈ ["f"] ∨ ∃ head ∈ metas page, SetsFlag head "b") ∧
      (metas (followDirectives page (.start .js ["f"])).1).filterMap named? =
        [("b", "1"), ("b", "")] ∧
      ((metas page).filter fun head => AsksName head ∧
        Text.isBlankText (content head) = false).getLast?.map (fun head =>
          Text.strip (content head)) = some "c" ∧
      (((metas page).filter fun head => AsksName head ∧
        Text.isBlankText (content head) = true).map fun _ => blankNameMessage) =
          [blankNameMessage])) = true := by
    decide +kernel
  obtain ⟨page, hread, hresult⟩ := exists_ok_of_any hrun
  obtain ⟨hset, hunset, hnamed, hname, hwarnings⟩ := of_decide_eq_true hresult
  obtain ⟨hflags, hgathers, hjs, -⟩ := facts_of_followDirectives hread .js ["f"]
  obtain ⟨-, -, -, hnative⟩ := facts_of_followDirectives hread .native ["f"]
  obtain ⟨hoverride, hmessages⟩ := hjs rfl
  exact ⟨page, hread, fun flag hflag => (hflags flag).2 (hset flag hflag),
    fun hflag => hunset ((hflags "b").1 hflag), hnamed ▸ hgathers, hoverride.trans hname,
    hmessages.trans hwarnings, hnative rfl⟩

end PageCompiler.Build
