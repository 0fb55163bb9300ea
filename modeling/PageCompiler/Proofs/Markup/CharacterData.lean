import PageCompiler.Proofs.Markup.Constructs
import PageCompiler.Proofs.Markup.DocumentOrder
import PageCompiler.Proofs.Markup.References

/-!
# Texts without tags

A text without `<` can always be read, and the document has nothing in it but text. It is written
back as it is but for two changes (`Respelled`). A reference behind which there is no semicolon gets
one, for a reference is written from its name and does not keep how it ended. And where the text
ends in `&` and a single letter, the `&` is lost, because the reader gives up behind it. So a text
in which no reference lacks its semicolon is kept (`Respelled.eq_self`).

What a step takes from the text and what its events show is a `Shows`; a round is a run of such
steps (`exists_readRound`), and what is left behind both rounds is shown as it stands.
-/

namespace PageCompiler.Markup

/-! ## What is written back -/

/-- What a text can be written back as : a reference may get a semicolon that it lacks, and the text
may lose an `&` before a letter at its end. -/
inductive Respelled : List Char → List Char → Prop
  | nil : Respelled [] []
  | same {text shown : List Char} (c : Char) (h : Respelled text shown) :
      Respelled (c :: text) (c :: shown)
  | closed {reference after shown : List Char} (href : Refers reference after)
      (hopen : after.head? ≠ some ';') (h : Respelled after shown) :
      Respelled (reference ++ after) (reference ++ ';' :: shown)
  | lost {c : Char} {shown : List Char} (hc : isLetter c) (h : Respelled [c] shown) :
      Respelled ['&', c] shown

/-- No reference in the text lacks its semicolon, and the text does not end in `&` and a letter. -/
structure ReferencesClosed (text : List Char) : Prop where
  semicolon : ∀ reference after, reference ++ after <:+ text → Refers reference after →
    after.head? = some ';'
  last : ∀ c, isLetter c → ¬['&', c] <:+ text

/-- An `&` and a letter, and nothing else. -/
def isLastLetter : List Char → Bool
  | ['&', c] => isLetter c
  | _ => false

theorem referencesClosed_iff {text : List Char} : ReferencesClosed text ↔
    ∀ back ∈ text.tails, (∀ found ∈ referenceAt? back, found.2.head? = some ';') ∧
      isLastLetter back = false := by
  simp only [List.mem_tails]
  constructor
  · refine fun h back hs => ⟨fun found hfound => ?_, ?_⟩
    · obtain ⟨rfl, href⟩ := referenceAt?_eq_some_iff.1 hfound
      exact h.semicolon _ _ hs href
    · unfold isLastLetter
      split
      · exact Bool.eq_false_iff.2 fun hc => h.last _ hc hs
      · rfl
  · refine fun h => ⟨fun reference after hs href => ?_, fun c hc hs => ?_⟩
    · exact (h _ hs).1 (reference, after) (referenceAt?_eq_some_iff.2 ⟨rfl, href⟩)
    · exact Bool.false_ne_true ((h _ hs).2.symm.trans hc)

instance : DecidablePred ReferencesClosed := fun _ => decidable_of_iff _ referencesClosed_iff.symm

namespace Respelled

variable {text shown : List Char}

theorem append_left (h : Respelled text shown) :
    ∀ front : List Char, Respelled (front ++ text) (front ++ shown)
  | [] => h
  | c :: front => (h.append_left front).same c

theorem refl (text : List Char) : Respelled text text := by
  simpa using Respelled.nil.append_left text

/-- A text in which no reference lacks its semicolon is kept. -/
theorem eq_self (h : Respelled text shown) (hclosed : ReferencesClosed text) : shown = text := by
  induction h with
  | nil => rfl
  | same c _ ih =>
    refine congrArg (c :: ·) (ih ⟨fun reference after hs => ?_, fun d hd hs => ?_⟩)
    · exact hclosed.semicolon reference after (hs.trans (List.suffix_cons _ _))
    · exact hclosed.last d hd (hs.trans (List.suffix_cons _ _))
  | closed href hopen _ _ => exact absurd (hclosed.semicolon _ _ (List.suffix_refl _) href) hopen
  | lost hc _ _ => exact absurd (List.suffix_refl _) (hclosed.last _ hc)

end Respelled

/-! ## Events -/

/-- The event shows characters and nothing else. -/
def Event.IsCharacters : Event → Prop
  | .text _ | .namedReference _ | .numericReference _ => True
  | _ => False

/-- The characters that events show. -/
def shownBy (events : List Event) : List Char :=
  events.flatMap fun event => event.characters.toList

theorem spell_of_isCharacters {event : Event} (h : event.IsCharacters) (building : Building) :
    building.spell event = event.characters := by
  cases event with
  | text _ | namedReference _ | numericReference _ => rfl
  | _ => cases h

/-- Events that show characters only add these to the markup. -/
theorem spellAll_of_isCharacters : ∀ {events : List Event},
    (∀ event ∈ events, event.IsCharacters) → ∀ building : Building,
      building.spellAll events = String.ofList (shownBy events)
  | [], _, _ => rfl
  | event :: events, h, building => by
    obtain ⟨hevent, hevents⟩ := List.forall_mem_cons.1 h
    have hshown : shownBy (event :: events) = event.characters.toList ++ shownBy events := rfl
    rw [Building.spellAll, spell_of_isCharacters hevent, spellAll_of_isCharacters hevents, hshown,
      String.ofList_append, String.ofList_toList]

/-! ## Steps -/

/-- Events show what they are read off, as it can be written back. -/
structure Shows (text : List Char) (events : List Event) (rest : List Char) : Prop where
  characters : ∀ event ∈ events, event.IsCharacters
  suffix : rest <:+ text
  respelled : ∀ {shown}, Respelled rest shown → Respelled text (shownBy events ++ shown)

namespace Shows

variable {text middle rest : List Char}

theorem refl (text : List Char) : Shows text [] text where
  characters := fun _ hmem => absurd hmem List.not_mem_nil
  suffix := List.suffix_refl _
  respelled := id

theorem append {first second : List Event} (h : Shows text first middle)
    (h' : Shows middle second rest) : Shows text (first ++ second) rest where
  characters := List.forall_mem_append.2 ⟨h.characters, h'.characters⟩
  suffix := h'.suffix.trans h.suffix
  respelled hr := by
    rw [shownBy, List.flatMap_append, List.append_assoc]
    exact h.respelled (h'.respelled hr)

/-- Text shows itself. -/
theorem ofChars (data rest : List Char) : Shows (data ++ rest) [.ofChars data] rest where
  characters := List.forall_mem_singleton.2 trivial
  suffix := List.suffix_append _ _
  respelled hr := by
    have hshown : shownBy [.ofChars data] = data := by
      simp [shownBy, Event.ofChars, Event.characters, Event.leaf?, Leaf.characters]
    rw [hshown]
    exact hr.append_left data

/-- A reference is shown with a semicolon. -/
theorem reference {reference after : List Char} {event : Event} (href : Refers reference after)
    (hevent : event.IsCharacters) (hshown : event.characters.toList = reference ++ [';']) :
    Shows (reference ++ after) [event] (dropSemicolon after) where
  characters := List.forall_mem_singleton.2 hevent
  suffix := (suffix_dropSemicolon after).trans (List.suffix_append _ _)
  respelled {shown} hr := by
    have hall : shownBy [event] ++ shown = reference ++ ';' :: shown := by simp [shownBy, hshown]
    rw [hall]
    by_cases hsemicolon : after.head? = some ';'
    · obtain ⟨behind, rfl⟩ := List.head?_eq_some_iff.1 hsemicolon
      exact (hr.same ';').append_left reference
    · refine .closed href hsemicolon ?_
      have hnone : dropSemicolon after = after := by
        unfold dropSemicolon
        split
        · exact absurd rfl hsemicolon
        · rfl
      exact hnone ▸ hr

/-- An `&` before a letter at the end is not shown. -/
theorem lost {c : Char} (hc : isLetter c) : Shows ['&', c] [] [c] where
  characters := fun _ hmem => absurd hmem List.not_mem_nil
  suffix := List.suffix_cons _ _
  respelled := .lost hc

end Shows

/-- What the step at an `&` takes is shown. -/
theorem shows_stepReference (final : Bool) (more : List Char) : ∃ events rest,
    Shows ('&' :: more) events rest ∧ (stepReference final ('&' :: more) = .next events none rest ∨
      stepReference final ('&' :: more) = .stop events rest) := by
  unfold stepReference
  split
  · next heq =>
    obtain rfl := (List.cons.inj heq).2
    split
    · next hread =>
      obtain ⟨d, after, rfl, rfl, hnumber, hd⟩ := numericReference?_eq_some_iff.1 hread
      refine ⟨_, _, ?_, .inl rfl⟩
      exact Shows.reference (.number hnumber hd) trivial
        (by simp [Event.characters, Event.leaf?, Leaf.characters])
    · split
      · exact ⟨_, _, Shows.ofChars ['&', '#'] _, .inr rfl⟩
      · exact ⟨_, _, .refl _, .inr rfl⟩
  · next c rest _ heq =>
    obtain rfl := (List.cons.inj heq).2
    split
    · next hread =>
      obtain ⟨after, hrest, rfl, hname⟩ := nameOfReference?_eq_some hread
      rw [hrest]
      refine ⟨_, _, ?_, .inl rfl⟩
      exact Shows.reference (.name hname) trivial
        (by simp [Event.characters, Event.leaf?, Leaf.characters])
    · split
      · next hc =>
        split
        · next hlast =>
          obtain rfl : rest = [] := by simp_all
          exact ⟨_, _, .lost hc, .inr rfl⟩
        · exact ⟨_, _, .refl _, .inr rfl⟩
      · exact ⟨_, _, Shows.ofChars ['&'] _, .inl rfl⟩
  · exact ⟨_, _, .refl _, .inr rfl⟩

/-- What a step takes from a text without `<` is shown. -/
theorem shows_step (final : Bool) {text : List Char} (hlt : '<' ∉ text) : ∃ events rest,
    Shows text events rest ∧ (step final none text = .ok (.next events none rest) ∨
      step final none text = .ok (.stop events rest)) := by
  unfold step
  dsimp only
  split
  · exact absurd List.mem_cons_self hlt
  · next more =>
    obtain ⟨events, rest, hshows, hstep | hstep⟩ := shows_stepReference final more
    · exact ⟨events, rest, hshows, .inl (congrArg _ hstep)⟩
    · exact ⟨events, rest, hshows, .inr (congrArg _ hstep)⟩
  · refine ⟨_, _, ?_, .inl rfl⟩
    have hshows := Shows.ofChars (text.takeWhile isPlain) (text.dropWhile isPlain)
    rwa [List.takeWhile_append_dropWhile] at hshows

theorem readRound_of_stop {final : Bool} {raw : RawText} {text rest : List Char}
    {events : List Event} (h : step final raw text = .ok (.stop events rest)) (hne : text ≠ []) :
    readRound final raw text = .ok ⟨events, raw, rest⟩ := by
  cases text with
  | nil => exact absurd rfl hne
  | cons c text =>
    rw [readRound]
    split <;> simp_all

/-- A round through a text without `<` succeeds, and shows what it takes. -/
theorem exists_readRound (final : Bool) : ∀ {text : List Char}, '<' ∉ text →
    ∃ events rest, readRound final none text = .ok ⟨events, none, rest⟩ ∧ Shows text events rest
  | [], _ => ⟨[], [], readRound_nil final none, .refl []⟩
  | c :: text, hlt => by
    obtain ⟨events, rest, hshows, hstep | hstep⟩ := shows_step final hlt
    · have hshorter := step_shorter hstep
      obtain ⟨more, last, hround, hlater⟩ :=
        exists_readRound final fun hmem => hlt (hshows.suffix.subset hmem)
      refine ⟨events ++ more, last, ?_, hshows.append hlater⟩
      rw [readRound_of_next hstep (List.cons_ne_nil _ _), hround]
      rfl
    · exact ⟨events, rest, readRound_of_stop hstep (List.cons_ne_nil _ _), hshows⟩
termination_by text => text.length
decreasing_by exact hshorter

/-- A text without `<` is read as events that show all of it. -/
theorem exists_readEvents {text : List Char} (hlt : '<' ∉ text) :
    ∃ events, readEvents text = .ok events ∧ Shows text events [] := by
  obtain ⟨first, between, hfirst, hshows⟩ := exists_readRound false hlt
  obtain ⟨second, last, hsecond, hshows'⟩ :=
    exists_readRound true fun hmem => hlt (hshows.suffix.subset hmem)
  have hevents : readEvents text =
      .ok (first ++ second ++ if !last.isEmpty then [.ofChars last] else []) := by
    rw [readEvents, hfirst]
    simp [hsecond, bind, Except.bind, pure, Except.pure]
  refine ⟨_, hevents, (hshows.append hshows').append ?_⟩
  cases last with
  | nil => exact .refl []
  | cons c last => simpa using Shows.ofChars (c :: last) []

/-- A text without `<` can be read, and is written back as it is, but that a reference may get a
semicolon that it lacks and that an `&` before a letter at the end may be lost. So it is kept if no
reference in it lacks its semicolon. -/
theorem writtenAs_characterData {text : String} (hlt : '<' ∉ text.toList) :
    ∃ shown, WrittenAs text shown ∧ Respelled text.toList shown.toList ∧
      (ReferencesClosed text.toList → shown = text) := by
  obtain ⟨events, hevents, hshows⟩ := exists_readEvents hlt
  have hrespelled := hshows.respelled .nil
  rw [List.append_nil] at hrespelled
  have hwell : ∀ event ∈ events, event.WellSpelled := by
    intro event hmem
    have hevent := hshows.characters event hmem
    cases event with
    | startTag => cases hevent
    | _ => trivial
  have hhtml : (ofEvents events).html = String.ofList (shownBy events) := by
    have hstart : Building.start.html = "" := by decide
    rw [ofEvents, html_finish_foldl_add Building.start_isSound hwell, hstart, String.empty_append,
      spellAll_of_isCharacters hshows.characters]
  refine ⟨String.ofList (shownBy events), ⟨ofEvents events, ?_, hhtml⟩, ?_, fun hclosed => ?_⟩
  · rw [parse, hevents]
    rfl
  · rwa [String.toList_ofList]
  · rw [hrespelled.eq_self hclosed, String.ofList_toList]

/-- References that are complete, and others that are never read as such. -/
theorem writtenAs_characterData_complete :
    '<' ∉ "A & B &amp;&#x3e; &#; &#38;= R&".toList ∧
      ReferencesClosed "A & B &amp;&#x3e; &#; &#38;= R&".toList ∧
      WrittenAs "A & B &amp;&#x3e; &#; &#38;= R&" "A & B &amp;&#x3e; &#; &#38;= R&" := by
  have hlt : '<' ∉ "A & B &amp;&#x3e; &#; &#38;= R&".toList := by decide
  have hclosed : ReferencesClosed "A & B &amp;&#x3e; &#; &#38;= R&".toList := by decide +kernel
  obtain ⟨shown, hwritten, -, hkept⟩ := writtenAs_characterData hlt
  exact ⟨hlt, hclosed, hkept hclosed ▸ hwritten⟩

/-- A reference gets a semicolon that the text does not have, and the last `&` is lost. -/
theorem characterData_not_kept : '<' ∉ "R&D at AT&T".toList ∧
    ∃ document, parse "R&D at AT&T" = .ok document ∧ document.html = "R&D; at ATT" ∧
      document.html ≠ "R&D at AT&T" := by
  have hrun : (parse "R&D at AT&T").toOption.any
      (fun document => document.html = "R&D; at ATT") = true := by
    decide +kernel
  obtain ⟨document, hparse, hhtml⟩ := exists_ok_of_any hrun
  have hhtml := of_decide_eq_true hhtml
  exact ⟨by decide, document, hparse, hhtml, by rw [hhtml]; decide⟩

end PageCompiler.Markup
