import PageCompiler.Proofs.Markup.SourceRoundTrip

/-!
# The names of the open elements

Which elements an event closes depends on how the open ones are named and on nothing else. So the
names of the open elements after an event are those before it, less the ones that a search closes
(`namesAfter?`), and perhaps a new one (`openNames_add`). Whether end tags match is therefore the
same in any two places with the same names around (`endsMatch_congr`), however the elements are
numbered and whatever they hold.
-/

namespace PageCompiler.Markup

/-- The open elements after a search through them, innermost first; `none` when it finds nothing. -/
def namesAfter? (verdict : String → Verdict) : List String → Option (List String)
  | [] => none
  | name :: names =>
    match verdict name with
    | .closes => some names
    | .stops => none
    | .passes => namesAfter? verdict names

/-- The names of the open elements as they are written, innermost first. -/
def Building.openNames (building : Building) : List String :=
  building.opened.map Head.sourceTag

theorem openNames_closeNearest? (verdict : String → Verdict) (finish : Frame → Frame) :
    ∀ (frame : Frame) (outer : List Frame),
      (closeNearest? (fun head => verdict head.sourceTag) finish frame outer).map
          (fun found => (openHeads found.1 found.2).map Head.sourceTag) =
        namesAfter? verdict ((openHeads frame outer).map Head.sourceTag)
  | _, [] => rfl
  | frame, below :: outer => by
    rw [closeNearest?, openHeads, List.map_cons, namesAfter?]
    cases verdict frame.head.sourceTag with
    | closes => rw [Option.map_some, openHeads_addElement]
    | stops => rfl
    | passes =>
      dsimp only
      rw [openNames_closeNearest? verdict finish, openHeads_addElement]

theorem openNames_closeNearest (building : Building) (verdict : String → Verdict)
    (finish : Frame → Frame) :
    (building.closeNearest (fun head => verdict head.sourceTag) finish).openNames =
      (namesAfter? verdict building.openNames).getD building.openNames := by
  have hsearch := openNames_closeNearest? verdict finish building.current building.outer
  rw [Building.openNames, Building.openNames, Building.opened, Building.opened, ← hsearch]
  unfold Building.closeNearest
  split
  · next h => rw [h]; rfl
  · next h => rw [h]; rfl

/-- What a start tag makes of an open element, by its name. -/
def ImpliedEnd.nameVerdict (implied : ImpliedEnd) (name : String) : Verdict :=
  if implied.closes.contains (Text.lower name) then .closes
  else if implied.boundary.contains (Text.lower name) then .stops
  else .passes

/-- The open elements after what a start tag implies. -/
def namesImplied (tag : String) (names : List String) : List String :=
  match impliedEnd? tag with
  | none => names
  | some implied => (namesAfter? implied.nameVerdict names).getD names

theorem openNames_endImplied (building : Building) (tag : String) :
    (building.endImplied tag).openNames = namesImplied tag building.openNames := by
  cases h : impliedEnd? tag with
  | none => simp only [Building.endImplied, namesImplied, h]
  | some implied =>
    have hended : building.endImplied tag =
        building.closeNearest (fun head => implied.nameVerdict head.sourceTag) id := by
      rw [Building.endImplied, h]
      rfl
    rw [hended, openNames_closeNearest, namesImplied, h]

/-- What an end tag makes of an open element, by its name. -/
def endVerdict (tag name : String) : Verdict :=
  if Text.lower name = tag then .closes else .passes

theorem openNames_endWritten (building : Building) (tag : String) :
    (building.endWritten tag).openNames =
      (namesAfter? (endVerdict tag) building.openNames).getD building.openNames :=
  openNames_closeNearest building (endVerdict tag) Frame.markEnd

theorem openNames_addLeaf (building : Building) (leaf : Leaf) :
    (building.addLeaf leaf).openNames = building.openNames :=
  congrArg (List.map Head.sourceTag) (openHeads_addLeaf building.current leaf building.outer)

/-- A start tag closes what it implies and adds the name of its element, if that stays open. -/
theorem openNames_openElement (building : Building) (spelling name : String)
    (attributes : List (String × Option String)) (selfClosing : Bool) :
    (building.openElement spelling name attributes selfClosing).openNames =
      if selfClosing then building.openNames
      else if (Building.readHead 0 spelling name attributes selfClosing).isVoid then
        namesImplied name building.openNames
      else (Building.readHead 0 spelling name attributes selfClosing).sourceTag ::
        namesImplied name building.openNames := by
  have hopened : ∀ {result : Building} {current : Frame} {outer : List Frame},
      result.current = current → result.outer = outer →
        result.openNames = (openHeads current outer).map Head.sourceTag := by
    rintro result current outer rfl rfl
    rfl
  have hvoid : (Building.readHead 0 spelling name attributes selfClosing).isVoid =
      (Building.readHead building.nextId spelling name attributes selfClosing).isVoid := rfl
  rw [← openNames_endImplied, hvoid]
  obtain ⟨-, ⟨hself, houter, hcurrent⟩ | ⟨hself, hchildless, houter, hcurrent⟩ |
    ⟨hself, hchildren, hcurrent, houter⟩⟩ :=
    building.openElement_cases spelling name attributes selfClosing
  · rw [hopened hcurrent houter, openHeads_addElement, if_pos hself]
    rfl
  · rw [hopened hcurrent houter, openHeads_addElement, if_neg (by simp [hself]), if_pos hchildless]
    rfl
  · rw [hopened hcurrent houter, if_neg (by simp [hself]), if_neg (by simp [hchildren])]
    rfl

theorem Building.add_of_leaf? {event : Event} {leaf : Leaf} (h : event.leaf? = some leaf)
    (building : Building) : building.add event = building.addLeaf leaf := by
  cases event <;> cases h <;> rfl

/-- Where the same names are open, they are so after an event. -/
theorem openNames_add {first second : Building} (h : first.openNames = second.openNames)
    (event : Event) : (first.add event).openNames = (second.add event).openNames := by
  obtain ⟨leaf, hleaf, -, -⟩ | ⟨name, rfl, -⟩ |
    ⟨spelling, name, attributes, selfClosing, rfl, -⟩ := first.add_cases event
  · rw [Building.add_of_leaf? hleaf, Building.add_of_leaf? hleaf, openNames_addLeaf,
      openNames_addLeaf, h]
  · exact (openNames_endWritten first name).trans (h ▸ (openNames_endWritten second name).symm)
  · refine (openNames_openElement first spelling name attributes selfClosing).trans ?_
    rw [h]
    exact (openNames_openElement second spelling name attributes selfClosing).symm

theorem openNames_foldl_add : ∀ (events : List Event) {first second : Building},
    first.openNames = second.openNames →
      (events.foldl Building.add first).openNames = (events.foldl Building.add second).openNames
  | [], _, _, h => h
  | event :: events, _, _, h => openNames_foldl_add events (openNames_add h event)

/-! ## End tags -/

/-- The name of the nearest open element with a tag. -/
theorem sourceTag_nearest? (building : Building) (tag : String) :
    (building.nearest? tag).map Head.sourceTag =
      building.openNames.find? fun name => Text.lower name = tag := by
  rw [Building.openNames, List.find?_map]
  rfl

theorem endMatches_congr {first second : Building} (h : first.openNames = second.openNames)
    {token : Token} (hends : token.EndMatches first) : token.EndMatches second := by
  intro name hname
  have hfirst := Option.map_eq_some_iff.2 (hends name hname)
  rw [sourceTag_nearest?, h, ← sourceTag_nearest?] at hfirst
  exact Option.map_eq_some_iff.1 hfirst

/-- Whether end tags match depends on the names of the open elements only. -/
theorem endsMatch_congr : ∀ {tokens : List Token} {first second : Building},
    first.openNames = second.openNames → EndsMatch first tokens → EndsMatch second tokens
  | [], _, _, _, _ => trivial
  | _ :: _, _, _, h, hends =>
    ⟨endMatches_congr h hends.1, fun events hevents =>
      endsMatch_congr (openNames_foldl_add events h) (hends.2 events hevents)⟩

end PageCompiler.Markup
