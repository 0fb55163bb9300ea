import PageCompiler.Proofs.Markup.ReadNames

/-!
# Where start tags stand

A text is read from front to back. What a reader leaves is an end of the text it was given, and a
start tag that is read is the text before that end. So the start tags that a text is read as are
read off it one behind the other (`readIn_of_readEvents`), each spelled as it stands there and with
the name and the attributes that are read off it there (`standIn_of_readEvents`). In particular each
is named as it is written (`isNamed_of_readEvents`).
-/

namespace PageCompiler.Markup

/-- A start tag as it is written, with its name in small letters and its attributes in writing
order. -/
structure WrittenTag where
  spelling : String
  name : String
  attributes : List (String × Option String)
  deriving Repr, DecidableEq

/-- The event is a start tag. -/
def Event.isStartTag : Event → Bool
  | .startTag .. => true
  | _ => false

/-- The start tag that an event is. -/
def Event.startTag? : Event → Option WrittenTag
  | .startTag spelling name attributes _ => some ⟨spelling, name, attributes⟩
  | _ => none

/-- Start tags stand in a text, one behind the other, and the last argument is an end of the text
behind them. Each is read off the text where it stands. -/
inductive StandIn : List Char → List WrittenTag → List Char → Prop
  | nil {text rest : List Char} : rest <:+ text → StandIn text [] rest
  | cons {text spelling later rest : List Char} {name : String}
      {attributes : List (String × Option String)} {selfClosing : Bool} {tags : List WrittenTag} :
      (∃ c front, spelling = '<' :: c :: front ∧ isLetter c) →
      spelling ++ later <:+ text →
      readStartTag (spelling ++ later) = .ok (.tag spelling name attributes selfClosing, later) →
      StandIn later tags rest →
      StandIn text (⟨String.ofList spelling, name, attributes⟩ :: tags) rest

/-- Start tags are read off a text, one behind the other, and the last argument is an end of the text
behind them. -/
inductive ReadIn : List Char → List Event → List Char → Prop
  | nil {text rest : List Char} : rest <:+ text → ReadIn text [] rest
  | cons {text spelling later rest : List Char} {name : String}
      {attributes : List (String × Option String)} {selfClosing : Bool} {tags : List Event} :
      (∃ c front, spelling = '<' :: c :: front ∧ isLetter c) →
      spelling ++ later <:+ text →
      readStartTag (spelling ++ later) = .ok (.tag spelling name attributes selfClosing, later) →
      ReadIn later tags rest →
      ReadIn text (.startTag (String.ofList spelling) name attributes selfClosing :: tags) rest

namespace ReadIn

variable {text middle rest : List Char} {tags : List Event}

theorem of_suffix (hs : middle <:+ text) : ReadIn middle tags rest → ReadIn text tags rest
  | nil h => nil (h.trans hs)
  | cons hletter h hread hlater => cons hletter (h.trans hs) hread hlater

theorem append {first second : List Event} (h : ReadIn text first middle)
    (hsecond : ReadIn middle second rest) : ReadIn text (first ++ second) rest := by
  induction h with
  | nil hs => exact hsecond.of_suffix hs
  | cons hletter hs hread _ ih => exact cons hletter hs hread (ih hsecond)

theorem suffix (h : ReadIn text tags rest) : rest <:+ text := by
  induction h with
  | nil hs => exact hs
  | @cons text spelling later _ _ _ _ _ _ hs _ _ ih =>
    exact ih.trans ((List.suffix_append spelling later).trans hs)

/-- Start tags that are read off a text stand in it. -/
theorem standIn (h : ReadIn text tags rest) : StandIn text (tags.filterMap Event.startTag?) rest := by
  induction h with
  | nil hs => exact .nil hs
  | cons hletter hs hread _ ih => exact .cons hletter hs hread ih

/-- Each of the start tags is read where it stands in the text. -/
theorem exists_reading {spelling name : String} {attributes : List (String × Option String)}
    {selfClosing : Bool} (h : ReadIn text tags rest)
    (hmem : .startTag spelling name attributes selfClosing ∈ tags) :
    (∃ c front, spelling.toList = '<' :: c :: front ∧ isLetter c) ∧
      ∃ later, spelling.toList ++ later <:+ text ∧ readStartTag (spelling.toList ++ later) =
        .ok (.tag spelling.toList name attributes selfClosing, later) := by
  induction h with
  | nil _ => cases hmem
  | @cons text chars later rest _ _ _ tags hletter hs hread _ ih =>
    rcases List.mem_cons.1 hmem with heq | hmem
    · cases heq
      rw [String.toList_ofList]
      exact ⟨hletter, later, hs, hread⟩
    · obtain ⟨hbegins, behind, hbehind, hreading⟩ := ih hmem
      exact ⟨hbegins, behind, hbehind.trans ((List.suffix_append chars later).trans hs), hreading⟩

end ReadIn

namespace StandIn

variable {text rest : List Char} {tags : List WrittenTag}

theorem of_suffix {middle : List Char} (hs : middle <:+ text) :
    StandIn middle tags rest → StandIn text tags rest
  | nil h => nil (h.trans hs)
  | cons hletter h hread hlater => cons hletter (h.trans hs) hread hlater

/-- Some of the start tags stand in the text, too. -/
theorem filter (p : WrittenTag → Bool) (h : StandIn text tags rest) :
    StandIn text (tags.filter p) rest := by
  induction h with
  | nil hs => exact nil hs
  | @cons text spelling later rest name attributes selfClosing tags hletter hs hread _ ih =>
    rw [List.filter_cons]
    split
    · exact cons hletter hs hread ih
    · exact ih.of_suffix ((List.suffix_append spelling later).trans hs)

end StandIn

/-! ## What readers leave -/

/-- What follows the delimiter is an end of the text. -/
def Delimiter.Cuts (delimiter : Delimiter) : Prop :=
  ∀ text after, delimiter text = some after → after <:+ text

theorem angle_cuts : angle.Cuts := by
  intro text after h
  unfold angle at h
  split at h
  · exact Option.some.inj h ▸ List.suffix_cons _ _
  · cases h

theorem blanksAngle_cuts : blanksAngle.Cuts := fun _ _ h =>
  (angle_cuts _ _ h).trans (List.dropWhile_suffix _)

theorem commentEnd_cuts : commentEnd.Cuts := by
  intro text after h
  unfold commentEnd at h
  split at h
  · next rest =>
    exact (blanksAngle_cuts _ _ h).trans ⟨['-', '-'], rfl⟩
  · cases h

theorem conditionalEnd_cuts : conditionalEnd.Cuts := by
  intro text after h
  unfold conditionalEnd at h
  split at h
  · exact (blanksAngle_cuts _ _ h).trans (List.suffix_cons _ _)
  · cases h

theorem sectionEnd_cuts : sectionEnd.Cuts := by
  intro text after h
  unfold sectionEnd at h
  split at h
  · exact ((conditionalEnd_cuts _ _ h).trans (List.dropWhile_suffix _)).trans
      (List.suffix_cons _ _)
  · cases h

section

variable {P : Event → Prop} {text rest : List Char} {event : Event}

theorem of_readTo {delimiter : Delimiter} {make : String → Event} {skip : Nat}
    (h : readTo delimiter make text skip = some (event, rest)) (hmake : ∀ data, P (make data)) :
    P event := by
  obtain ⟨found, -, hpair⟩ := Option.map_eq_some_iff.1 h
  exact (Prod.mk.inj hpair).1 ▸ hmake _

theorem of_readSection (h : readSection text = .ok (some (event, rest)))
    (hmake : ∀ data, P (.markedSection data)) : P event := by
  unfold readSection at h
  split at h
  · cases h
  · dsimp only at h
    split at h
    · split at h
      · cases h
      · split at h
        · exact of_readTo (Except.ok.inj h) hmake
        · cases h
    · cases h

/-- What begins with `<!` or `<?` is a comment, a declaration, a section or an instruction. -/
theorem of_readDeclaration (h : readDeclaration text = .ok (some (event, rest)))
    (hcomment : ∀ data, P (.comment data)) (hdeclaration : ∀ data, P (.declaration data))
    (hsection : ∀ data, P (.markedSection data)) (hinstruction : ∀ data, P (.instruction data)) :
    P event := by
  unfold readDeclaration at h
  split at h
  · exact of_readTo (Except.ok.inj h) hcomment
  · exact of_readSection h hsection
  · exact of_readTo (Except.ok.inj h) hinstruction
  · split at h
    · exact of_readTo (Except.ok.inj h) hdeclaration
    · exact of_readTo (Except.ok.inj h) hcomment

end

section

variable {text rest : List Char}

theorem suffix_of_splitAt? {delimiter : Delimiter} (hd : delimiter.Cuts) :
    ∀ {text before after : List Char}, splitAt? delimiter text = some (before, after) →
      after <:+ text
  | [], _, _, h => by cases h
  | c :: text, before, after, h => by
    rw [splitAt?] at h
    split at h
    · next found hfound =>
      obtain ⟨-, rfl⟩ := Prod.mk.inj (Option.some.inj h)
      exact hd _ _ hfound
    · obtain ⟨⟨_, _⟩, hrest, hpair⟩ := Option.map_eq_some_iff.1 h
      obtain ⟨-, rfl⟩ := Prod.mk.inj hpair
      exact (suffix_of_splitAt? hd hrest).trans (List.suffix_cons _ _)

theorem suffix_of_readTo {delimiter : Delimiter} (hd : delimiter.Cuts) {make : String → Event}
    {skip : Nat} {event : Event} (h : readTo delimiter make text skip = some (event, rest)) :
    rest <:+ text := by
  obtain ⟨⟨before, after⟩, hfound, hpair⟩ := Option.map_eq_some_iff.1 h
  obtain ⟨-, rfl⟩ := Prod.mk.inj hpair
  exact (suffix_of_splitAt? hd hfound).trans (List.drop_suffix _ _)

theorem sectionDelimiter?_cuts {keyword : String} {delimiter : Delimiter}
    (h : sectionDelimiter? keyword = some delimiter) : delimiter.Cuts := by
  unfold sectionDelimiter? at h
  split at h
  · exact Option.some.inj h ▸ sectionEnd_cuts
  · split at h
    · exact Option.some.inj h ▸ conditionalEnd_cuts
    · cases h

theorem suffix_of_readSection {event : Event}
    (h : readSection text = .ok (some (event, rest))) : rest <:+ text := by
  unfold readSection at h
  split at h
  · cases h
  · dsimp only at h
    split at h
    · split at h
      · cases h
      · split at h
        · next hdelimiter =>
          exact suffix_of_readTo (sectionDelimiter?_cuts hdelimiter) (Except.ok.inj h)
        · cases h
    · cases h

theorem suffix_of_readDeclaration {event : Event}
    (h : readDeclaration text = .ok (some (event, rest))) : rest <:+ text := by
  unfold readDeclaration at h
  split at h
  · exact suffix_of_readTo commentEnd_cuts (Except.ok.inj h)
  · exact suffix_of_readSection h
  · exact suffix_of_readTo angle_cuts (Except.ok.inj h)
  · split at h <;> exact suffix_of_readTo angle_cuts (Except.ok.inj h)

theorem suffix_of_plainEndTag? {name after : List Char}
    (h : plainEndTag? text = some (name, after)) : after <:+ text := by
  have hblanks : (text.drop 2).dropWhile Text.isBlank <:+ text :=
    (List.dropWhile_suffix _).trans (List.drop_suffix _ _)
  unfold plainEndTag? at h
  split at h
  · cases h
  · next c more heq =>
    rw [heq] at hblanks
    split at h
    · obtain ⟨tail, htail, hpair⟩ := Option.map_eq_some_iff.1 h
      obtain ⟨-, rfl⟩ := Prod.mk.inj hpair
      exact (((blanksAngle_cuts _ _ htail).trans (List.dropWhile_suffix _)).trans
        (List.suffix_cons _ _)).trans hblanks
    · cases h

theorem suffix_dropSemicolon (text : List Char) : dropSemicolon text <:+ text := by
  unfold dropSemicolon
  split
  · exact List.suffix_cons _ _
  · exact List.suffix_refl _

theorem suffix_of_splitNumber? {number : List Char}
    (h : splitNumber? text = some (number, rest)) : rest <:+ text := by
  unfold splitNumber? at h
  split at h
  · obtain ⟨-, rfl⟩ := Prod.mk.inj (Option.some.inj h)
    exact List.dropWhile_suffix _
  · split at h
    · cases h
    · split at h
      · obtain ⟨-, rfl⟩ := Prod.mk.inj (Option.some.inj h)
        exact (List.dropWhile_suffix _).trans (List.suffix_cons _ _)
      · cases h

theorem suffix_of_numericReference? {number : List Char}
    (h : numericReference? text = some (number, rest)) : rest <:+ text := by
  unfold numericReference? at h
  split at h
  · cases h
  · next hnumber =>
    split at h
    · cases h
    · split at h
      · cases h
      · obtain ⟨-, rfl⟩ := Prod.mk.inj (Option.some.inj h)
        exact (suffix_dropSemicolon _).trans (suffix_of_splitNumber? hnumber)

theorem suffix_of_nameOfReference? {name : List Char}
    (h : nameOfReference? text = some (name, rest)) : rest <:+ text := by
  unfold nameOfReference? at h
  split at h
  · cases h
  · split at h
    · split at h
      · obtain ⟨⟨before, after⟩, hcut, hpair⟩ := Option.map_eq_some_iff.1 h
        obtain ⟨-, rfl⟩ := Prod.mk.inj hpair
        exact List.IsSuffix.trans ⟨before, Text.splitBeforeLast?_append hcut⟩
          (List.suffix_cons _ _)
      · obtain ⟨-, rfl⟩ := Prod.mk.inj (Option.some.inj h)
        exact ((suffix_dropSemicolon _).trans (List.dropWhile_suffix _)).trans
          (List.suffix_cons _ _)
    · cases h

theorem suffix_splitUnfinished (text : List Char) : (splitUnfinished text).2 <:+ text := by
  unfold splitUnfinished
  split
  · next hfound => exact (suffix_of_splitAt? angle_cuts hfound).trans (List.drop_suffix _ _)
  · split
    · exact List.drop_suffix _ _
    · exact (List.dropWhile_suffix _).trans (List.drop_suffix _ _)

end

/-! ## The start tags of a text -/

/-- The events of a step. -/
def Step.events : Step → List Event
  | .next events _ _ => events
  | .stop events _ => events

/-- What a step leaves. -/
def Step.rest : Step → List Char
  | .next _ _ rest => rest
  | .stop _ rest => rest

section

variable {final : Bool} {raw opened : RawText} {text rest : List Char} {events : List Event}

theorem readIn_stepReference (final : Bool) (text : List Char) :
    ReadIn text ((stepReference final text).events.filter Event.isStartTag)
      (stepReference final text).rest := by
  unfold stepReference
  split
  · next more =>
    have hmore : more <:+ '&' :: '#' :: more := ⟨['&', '#'], rfl⟩
    split
    · next hnumber => exact .nil ((suffix_of_numericReference? hnumber).trans hmore)
    · split
      · exact .nil hmore
      · exact .nil (List.suffix_refl _)
  · next c more _ =>
    have hmore : c :: more <:+ '&' :: c :: more := List.suffix_cons _ _
    split
    · next hname => exact .nil ((suffix_of_nameOfReference? hname).trans hmore)
    · split
      · split
        · next hlast =>
          obtain rfl : more = [] := by simp_all
          exact .nil hmore
        · exact .nil (List.suffix_refl _)
      · exact .nil hmore
  · exact .nil (List.suffix_refl _)

theorem readIn_of_readEndTag (h : readEndTag raw text = some (events, opened, rest)) :
    ReadIn text (events.filter Event.isStartTag) rest := by
  obtain ⟨found, hfound, hpair⟩ := Option.map_eq_some_iff.1 h
  have hbehind : found.2 <:+ text :=
    (suffix_of_splitAt? angle_cuts hfound).trans (List.drop_suffix _ _)
  dsimp only at hpair
  split at hpair
  · next hplain =>
    split at hpair <;> obtain ⟨rfl, htail⟩ := Prod.mk.inj hpair <;>
      obtain ⟨-, rfl⟩ := Prod.mk.inj htail
    · exact .nil hbehind
    · exact .nil (suffix_of_plainEndTag? hplain)
  · repeat' split at hpair
    all_goals
      obtain ⟨rfl, htail⟩ := Prod.mk.inj hpair
      obtain ⟨-, rfl⟩ := Prod.mk.inj htail
      exact .nil hbehind

theorem readIn_of_readConstruct (h : readConstruct raw text = .ok (some (events, opened, rest))) :
    ReadIn text (events.filter Event.isStartTag) rest := by
  unfold readConstruct at h
  split at h
  · next c more =>
    split at h
    · next hc =>
      split at h
      · cases h
      · cases h
      · next hread =>
        obtain ⟨rfl, hpair⟩ := Prod.mk.inj (Option.some.inj (Except.ok.inj h))
        obtain ⟨-, rfl⟩ := Prod.mk.inj hpair
        exact .nil ⟨_, (readStartTag_spelling hread (by simp)).1⟩
      · next spelling name attributes selfClosing later hread =>
        obtain ⟨rfl, hpair⟩ := Prod.mk.inj (Option.some.inj (Except.ok.inj h))
        obtain ⟨-, rfl⟩ := Prod.mk.inj hpair
        obtain ⟨hall, -⟩ := readStartTag_spelling hread (by simp)
        obtain ⟨⟨d, front, hfront, hd⟩, -⟩ := isNamed_of_readStartTag hc hread
        rw [String.toList_ofList] at hfront
        exact .cons ⟨d, front, hfront, hd⟩ ⟨[], hall⟩ (hall ▸ hread) (.nil (List.suffix_refl _))
    · split at h
      · exact readIn_of_readEndTag (Except.ok.inj h)
      · split at h
        · split at h
          · cases h
          · next reading hread =>
            obtain ⟨⟨event, tail⟩, hfound, hpair⟩ := Option.map_eq_some_iff.1 (Except.ok.inj h)
            obtain ⟨rfl, htail⟩ := Prod.mk.inj hpair
            obtain ⟨-, rfl⟩ := Prod.mk.inj htail
            have hnone : [event].filter Event.isStartTag = [] :=
              of_readDeclaration (P := fun event => [event].filter Event.isStartTag = [])
                (hfound ▸ hread) (fun _ => rfl) (fun _ => rfl) (fun _ => rfl) fun _ => rfl
            rw [hnone]
            exact .nil (suffix_of_readDeclaration (hfound ▸ hread))
        · obtain ⟨rfl, hpair⟩ := Prod.mk.inj (Option.some.inj (Except.ok.inj h))
          obtain ⟨-, rfl⟩ := Prod.mk.inj hpair
          exact .nil (List.drop_suffix _ _)
  · cases h

theorem readIn_of_stepConstruct {result : Step} (h : stepConstruct final raw text = .ok result) :
    ReadIn text (result.events.filter Event.isStartTag) result.rest := by
  unfold stepConstruct at h
  split at h
  · obtain rfl := Except.ok.inj h
    exact .nil (List.suffix_refl _)
  · split at h
    · cases h
    · next hread =>
      obtain rfl := Except.ok.inj h
      exact readIn_of_readConstruct hread
    · split at h
      · obtain rfl := Except.ok.inj h
        exact .nil (suffix_splitUnfinished text)
      · obtain rfl := Except.ok.inj h
        exact .nil (List.suffix_refl _)

theorem readIn_of_step {result : Step} (h : step final raw text = .ok result) :
    ReadIn text (result.events.filter Event.isStartTag) result.rest := by
  unfold step at h
  split at h
  · split at h
    · obtain rfl := Except.ok.inj h
      exact .nil (List.suffix_refl _)
    · exact readIn_of_stepConstruct h
    · obtain rfl := Except.ok.inj h
      exact .nil (List.drop_suffix _ _)
  · split at h
    · exact readIn_of_stepConstruct h
    · obtain rfl := Except.ok.inj h
      exact readIn_stepReference final _
    · obtain rfl := Except.ok.inj h
      exact .nil (List.dropWhile_suffix _)

theorem readIn_of_readRound {round : Round} (h : readRound final raw text = .ok round) :
    ReadIn text (round.events.filter Event.isStartTag) round.rest := by
  fun_induction readRound final raw text generalizing round with
  | case1 raw =>
    obtain rfl := Except.ok.inj h
    exact .nil (List.suffix_refl _)
  | case2 raw c more e hstep => cases h
  | case3 raw c more events rest hstep =>
    obtain rfl := Except.ok.inj h
    exact readIn_of_step hstep
  | case4 raw c more events opened rest hstep ih =>
    obtain ⟨later, hlater, rfl⟩ := map_eq_ok h
    rw [List.filter_append]
    exact (readIn_of_step hstep).append (ih hlater)

/-- The start tags that a text is read as are read off it in their order. -/
theorem readIn_of_readEvents (h : readEvents text = .ok events) :
    ReadIn text (events.filter Event.isStartTag) [] := by
  obtain ⟨first, hfirst, h⟩ := bind_eq_ok h
  obtain ⟨last, hlast, h⟩ := bind_eq_ok h
  obtain rfl := Except.ok.inj h
  have hremains : ((if last.raw.isNone && !last.rest.isEmpty then [.ofChars last.rest]
      else []).filter Event.isStartTag) = ([] : List Event) := by
    split <;> rfl
  rw [List.filter_append, List.filter_append, hremains]
  exact ((readIn_of_readRound hfirst).append (readIn_of_readRound hlast)).append
    (.nil List.nil_suffix)

/-- The start tags that a text is read as stand in it, in their order. -/
theorem standIn_of_readEvents (h : readEvents text = .ok events) :
    StandIn text (events.filterMap Event.startTag?) [] := by
  have hsame : (events.filter Event.isStartTag).filterMap Event.startTag? =
      events.filterMap Event.startTag? := by
    rw [List.filterMap_filter]
    exact congrArg (List.filterMap · events) (funext fun event => by cases event <;> rfl)
  exact hsame ▸ (readIn_of_readEvents h).standIn

/-- Every start tag of a text begins with a bracket and a letter and is read where it stands. -/
theorem exists_reading_of_readEvents (h : readEvents text = .ok events) {spelling name : String}
    {attributes : List (String × Option String)} {selfClosing : Bool}
    (hmem : .startTag spelling name attributes selfClosing ∈ events) :
    (∃ c front, spelling.toList = '<' :: c :: front ∧ isLetter c) ∧
      ∃ later, spelling.toList ++ later <:+ text ∧ readStartTag (spelling.toList ++ later) =
        .ok (.tag spelling.toList name attributes selfClosing, later) :=
  (readIn_of_readEvents h).exists_reading (List.mem_filter.2 ⟨hmem, rfl⟩)

/-- Every start tag of a text carries its written name in small letters. -/
theorem isNamed_of_readEvents (h : readEvents text = .ok events) :
    ∀ event ∈ events, event.IsNamed := by
  intro event hmem
  cases event with
  | startTag spelling name attributes selfClosing =>
    obtain ⟨⟨c, front, hspelling, hc⟩, later, -, hread⟩ := exists_reading_of_readEvents h hmem
    rw [hspelling] at hread
    have hnamed := isNamed_of_readStartTag hc hread
    rwa [← hspelling, String.ofList_toList] at hnamed
  | _ => trivial

end

end PageCompiler.Markup
