import PageCompiler.Markup.CharacterData
import PageCompiler.Markup.Declaration
import PageCompiler.Markup.EndTag

/-!
# From text to events

A text is read in two rounds. The first goes on until it meets something the text ends in the middle
of, such as a tag without its `>` or a reference without a character behind it. The second starts
there and knows that no more text will come: what is unfinished now becomes text. A reference that
cannot be completed ends a round early, and all that is left after the second is one text. Raw text
whose end tag never comes is lost.

Each step takes at least one character or ends the round (`step_shorter`), so a round ends.
-/

namespace PageCompiler.Markup

/-- What one step of a round does. -/
inductive Step
  /-- The round goes on with what is left. -/
  | next (events : List Event) (raw : RawText) (rest : List Char)
  /-- The round is over, with this much left. -/
  | stop (events : List Event) (rest : List Char)

/-- Some characters as a text event. -/
def Event.ofChars (chars : List Char) : Event :=
  .text (String.ofList chars)

/-- The step at an `&`. -/
def stepReference (final : Bool) (text : List Char) : Step :=
  match text with
  | '&' :: '#' :: rest =>
    match numericReference? rest with
    | some (number, after) => .next [.numericReference (String.ofList number)] none after
    | none => if text.contains ';' then .stop [.text "&#"] rest else .stop [] text
  | '&' :: c :: rest =>
    match nameOfReference? (c :: rest) with
    | some (name, after) => .next [.namedReference (String.ofList name)] none after
    | none =>
      if isLetter c then if final && rest.isEmpty then .stop [] [c] else .stop [] text
      else .next [.text "&"] none (c :: rest)
  | _ => .stop [] text

/-- Reads the construct off a text that begins with `<`: its events, the raw text then open, and
what follows. `none` when the text ends inside the construct. -/
def readConstruct (raw : RawText) (text : List Char) :
    Except Error (Option (List Event × RawText × List Char)) :=
  match text with
  | '<' :: c :: _ =>
    if isLetter c then
      match readStartTag text with
      | .error e => .error e
      | .ok (.unfinished, _) => .ok none
      | .ok (.broken spelling, rest) => .ok (some ([.ofChars spelling], raw, rest))
      | .ok (.tag spelling name attributes selfClosing, rest) =>
        let opened := if !selfClosing && rawTextTags.contains name then some name else raw
        .ok (some
          ([.startTag (String.ofList spelling) name attributes selfClosing], opened, rest))
    else if c = '/' then .ok (readEndTag raw text)
    else if c = '!' ∨ c = '?' then
      match readDeclaration text with
      | .error e => .error e
      | .ok reading => .ok (reading.map fun found => ([found.1], raw, found.2))
    else .ok (some ([.text "<"], raw, text.drop 1))
  | _ => .ok none

/-- What is taken for text when a construct never ends: up to the next `>`, or else up to the next
`<`, or else one character. -/
def splitUnfinished (text : List Char) : List Char × List Char :=
  match splitAt? angle (text.drop 1) with
  | some (before, after) => (text.take 1 ++ before ++ ['>'], after)
  | none =>
    match (text.drop 1).dropWhile (· != '<') with
    | [] => (text.take 1, text.drop 1)
    | rest => (text.take 1 ++ (text.drop 1).takeWhile (· != '<'), rest)

/-- The step at a `<`. -/
def stepConstruct (final : Bool) (raw : RawText) (text : List Char) : Except Error Step :=
  if (text.drop 1).isEmpty then .ok (.stop [] text)
  else
    match readConstruct raw text with
    | .error e => .error e
    | .ok (some (events, opened, rest)) => .ok (.next events opened rest)
    | .ok none =>
      if final then
        let split := splitUnfinished text
        .ok (.next [.ofChars split.1] raw split.2)
      else .ok (.stop [] text)

/-- A character of plain text. -/
def isPlain (c : Char) : Bool :=
  c != '<' && c != '&'

/-- One step of a round on a text that is not empty. -/
def step (final : Bool) (raw : RawText) (text : List Char) : Except Error Step :=
  match raw with
  | some tag =>
    match splitAt? (rawTextEnd tag) text with
    | none => .ok (.stop [] text)
    | some ([], _) => stepConstruct final raw text
    | some (before, _) => .ok (.next [.ofChars before] raw (text.drop before.length))
  | none =>
    match text with
    | '<' :: _ => stepConstruct final none text
    | '&' :: _ => .ok (stepReference final text)
    | _ =>
      .ok (.next [.ofChars (text.takeWhile isPlain)] none (text.dropWhile isPlain))

/-! ## Every step that goes on takes a character -/

theorem stepReference_shorter {final : Bool} {raw : RawText} {text rest : List Char}
    {events : List Event} (h : stepReference final text = .next events raw rest) :
    rest.length < text.length := by
  unfold stepReference at h
  split at h
  · split at h
    · next hnumber =>
      have := numericReference?_shorter hnumber
      simp only [Step.next.injEq] at h
      simp only [List.length_cons, ← h.2.2]
      omega
    · split at h <;> simp at h
  · split at h
    · next hname =>
      have := nameOfReference?_shorter hname
      simp only [Step.next.injEq] at h
      simp only [List.length_cons, ← h.2.2] at this ⊢
      omega
    · split at h
      · split at h <;> simp at h
      · simp only [Step.next.injEq] at h
        simp [← h.2.2]
  · simp at h

theorem readConstruct_shorter {raw opened : RawText} {text rest : List Char} {events : List Event}
    (h : readConstruct raw text = .ok (some (events, opened, rest))) :
    rest.length < text.length := by
  unfold readConstruct at h
  split at h
  · next c more =>
    have covered {tag : StartTag} {tail : List Char}
        (hread : readStartTag ('<' :: c :: more) = .ok (tag, tail)) (hf : tag ≠ .unfinished) :
        tail.length < ('<' :: c :: more).length := by
      obtain ⟨hall, hne⟩ := readStartTag_spelling hread hf
      have := List.length_pos_iff.2 hne
      rw [← hall, List.length_append]
      omega
    split at h
    · split at h
      · simp at h
      · simp at h
      · next hread =>
        simp only [Except.ok.injEq, Option.some.injEq, Prod.mk.injEq] at h
        exact h.2.2 ▸ covered hread (by simp)
      · next hread =>
        simp only [Except.ok.injEq, Option.some.injEq, Prod.mk.injEq] at h
        exact h.2.2 ▸ covered hread (by simp)
    · split at h
      · exact readEndTag_shorter (Except.ok.inj h)
      · split at h
        · split at h
          · simp at h
          · next reading hread =>
            obtain ⟨⟨event, tail⟩, hfound, hpair⟩ := Option.map_eq_some_iff.1 (Except.ok.inj h)
            simp only [Prod.mk.injEq] at hpair
            exact hpair.2.2 ▸ readDeclaration_shorter (hfound ▸ hread)
        · simp only [Except.ok.injEq, Option.some.injEq, Prod.mk.injEq] at h
          simp [← h.2.2]
  · simp at h

theorem splitUnfinished_shorter {text : List Char} (h : text ≠ []) :
    (splitUnfinished text).2.length < text.length := by
  have hpos := List.length_pos_iff.2 h
  unfold splitUnfinished
  split
  · next before after hfound =>
    have := splitAt?_shorter angle_consumes hfound
    simp only [List.length_drop] at this
    dsimp only
    omega
  · split
    · simp only [List.length_drop]
      omega
    · have := length_dropWhile_le (· != '<') (text.drop 1)
      simp only [List.length_drop] at this
      dsimp only
      omega

theorem stepConstruct_shorter {final : Bool} {raw opened : RawText} {text rest : List Char}
    {events : List Event} (h : stepConstruct final raw text = .ok (.next events opened rest)) :
    rest.length < text.length := by
  unfold stepConstruct at h
  split at h
  · simp at h
  · next hlen =>
    split at h
    · simp at h
    · next hread =>
      simp only [Except.ok.injEq, Step.next.injEq] at h
      obtain ⟨rfl, rfl, rfl⟩ := h
      exact readConstruct_shorter hread
    · split at h
      · simp only [Except.ok.injEq, Step.next.injEq] at h
        rw [← h.2.2]
        refine splitUnfinished_shorter ?_
        rintro rfl
        simp at hlen
      · simp at h

theorem step_shorter {final : Bool} {raw opened : RawText} {c : Char} {text rest : List Char}
    {events : List Event} (h : step final raw (c :: text) = .ok (.next events opened rest)) :
    rest.length < (c :: text).length := by
  unfold step at h
  split at h
  · split at h
    · simp at h
    · exact stepConstruct_shorter h
    · next before after hne hfound =>
      simp only [Except.ok.injEq, Step.next.injEq] at h
      have hpos : 0 < before.length := by
        refine List.length_pos_iff.2 ?_
        rintro rfl
        exact hne rfl
      rw [← h.2.2, List.length_drop]
      simp only [List.length_cons]
      omega
  · split at h
    · exact stepConstruct_shorter h
    · exact stepReference_shorter (Except.ok.inj h)
    · next hlt hamp =>
      simp only [Except.ok.injEq, Step.next.injEq] at h
      have hc : isPlain c = true := by
        simp only [isPlain, Bool.and_eq_true, bne_iff_ne, ne_eq]
        exact ⟨fun he => hlt text (he ▸ rfl), fun he => hamp text (he ▸ rfl)⟩
      have := length_dropWhile_le isPlain text
      rw [← h.2.2, List.dropWhile_cons_of_pos hc]
      simp only [List.length_cons]
      omega

/-! ## Rounds -/

/-- What a round yields: events, the raw text still open, and what is left. -/
structure Round where
  events : List Event
  raw : RawText
  rest : List Char

/-- Reads a text step by step, to its end or to where a step stops. -/
def readRound (final : Bool) (raw : RawText) (text : List Char) : Except Error Round :=
  match text with
  | [] => .ok ⟨[], raw, []⟩
  | c :: more =>
    match _h : step final raw (c :: more) with
    | .error e => .error e
    | .ok (.stop events rest) => .ok ⟨events, raw, rest⟩
    | .ok (.next events opened rest) =>
      (fun round => { round with events := events ++ round.events }) <$>
        readRound final opened rest
termination_by text.length
decreasing_by exact step_shorter _h

/-- The events of a text. -/
def readEvents (text : List Char) : Except Error (List Event) := do
  let first ← readRound false none text
  let last ← readRound true first.raw first.rest
  let remains := if last.raw.isNone && !last.rest.isEmpty then [.ofChars last.rest] else []
  return first.events ++ last.events ++ remains

end PageCompiler.Markup
