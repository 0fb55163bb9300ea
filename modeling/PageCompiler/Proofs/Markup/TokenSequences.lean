import PageCompiler.Proofs.Markup.OpenElements
import PageCompiler.Proofs.Markup.Tokens

/-!
# Sequences of plain tokens

What plain tokens one behind the other are read as. A text runs on to the next token that is no
text, so neighbouring texts make one event where the tokens have several (`joined`). In the tree
that makes no difference, because text next to text joins it : the document is the one that the
events of the tokens describe (`parse_charsOf`). A text of plain tokens is read in the first round,
and the second finds nothing left.
-/

namespace PageCompiler.Markup

/-! ## Neighbouring texts -/

namespace Token

/-- The events that are read : a text under way, and what the tokens add to it. -/
def joined (lead : List Char) : List Token → Except Error (List Event)
  | [] => .ok (textEvents lead)
  | token :: tokens =>
    match token with
    | text data => joined (lead ++ data) tokens
    | token => token.events >>= fun events =>
      (fun more => textEvents lead ++ (events ++ more)) <$> joined [] tokens

theorem joined_of_isText_eq_false {token : Token} (h : token.isText = false) (lead : List Char)
    (tokens : List Token) :
    joined lead (token :: tokens) =
      token.events >>= fun events =>
        (fun more => textEvents lead ++ (events ++ more)) <$> joined [] tokens := by
  cases token with
  | text data => exact absurd h (by simp [isText])
  | _ => rfl

/-- A token that is no text begins with a character that ends a text. -/
theorem head?_chars {token : Token} (h : token.isText = false) (rest : List Char) :
    ∀ c ∈ (token.chars ++ rest).head?, Markup.isPlain c = false := by
  cases token with
  | text data => exact absurd h (by simp [isText])
  | _ => rintro c ⟨⟩; decide

end Token

/-- A text is read up to the first character that is not plain. -/
theorem readRound_text {lead rest : List Char} (hlead : ∀ c ∈ lead, isPlain c)
    (hrest : ∀ c ∈ rest.head?, isPlain c = false) (final : Bool) :
    readRound final none (lead ++ rest) =
      Round.after (textEvents lead) <$> readRound final none rest := by
  cases lead with
  | nil =>
    simp only [List.nil_append, textEvents]
    cases readRound final none rest <;> rfl
  | cons c lead =>
    have hc : c ≠ '<' ∧ c ≠ '&' := by
      have := hlead c List.mem_cons_self
      simpa [isPlain] using this
    have htake := takeWhile_append hlead hrest
    have hdrop := dropWhile_append hlead hrest
    have hstep : step final none (c :: lead ++ rest) =
        .ok (.next [.ofChars (c :: lead)] none rest) := by
      unfold step
      simp only [List.cons_append] at htake hdrop ⊢
      split
      · next heq => exact absurd (List.cons.inj heq).1 hc.1
      · next heq => exact absurd (List.cons.inj heq).1 hc.2
      · rw [htake, hdrop]
    exact readRound_of_next hstep (by simp)

/-- Plain tokens are read, and then what stands behind them, unless that goes on with their text. -/
theorem readRound_charsOf_append {back : List Char} (hback : ∀ c ∈ back.head?, isPlain c = false) :
    ∀ {tokens : List Token}, (∀ token ∈ tokens, token.IsPlain) →
    ∀ lead : List Char, (∀ c ∈ lead, isPlain c) →
    readRound false none (lead ++ (Token.charsOf tokens ++ back)) =
      Token.joined lead tokens >>= fun events =>
        Round.after events <$> readRound false none back
  | [], _, lead, hlead => by
    rw [Token.charsOf_nil, List.nil_append, readRound_text hlead hback]
    rfl
  | token :: tokens, h, lead, hlead => by
    have htokens : ∀ token ∈ tokens, token.IsPlain := fun t ht => h t (List.mem_cons_of_mem _ ht)
    have htoken := h token List.mem_cons_self
    rw [Token.charsOf_cons, List.append_assoc]
    cases ht : token.isText with
    | true =>
      cases token with
      | text data =>
        have hboth : ∀ c ∈ lead ++ data, isPlain c := by
          intro c hc
          exact (List.mem_append.1 hc).elim (hlead c) (htoken c)
        have hjoin := readRound_charsOf_append hback htokens _ hboth
        rw [List.append_assoc] at hjoin
        exact hjoin
      | _ => exact absurd ht (by simp [Token.isText])
    | false =>
      have hmore := readRound_charsOf_append hback htokens [] (by simp)
      rw [readRound_text hlead (Token.head?_chars ht _), readRound_token htoken ht,
        Token.joined_of_isText_eq_false ht]
      rw [List.nil_append] at hmore
      rw [hmore]
      simp only [map_bind, bind_assoc, bind_map_left, Functor.map_map, Round.after_after]

theorem readRound_charsOf {tokens : List Token} (h : ∀ token ∈ tokens, token.IsPlain)
    (lead : List Char) (hlead : ∀ c ∈ lead, isPlain c) :
    readRound false none (lead ++ Token.charsOf tokens) =
      (fun events => ⟨events, none, []⟩) <$> Token.joined lead tokens := by
  have hend : ∀ c ∈ ([] : List Char).head?, isPlain c = false := by simp
  have hround := readRound_charsOf_append hend h lead hlead
  rw [List.append_nil, readRound_nil] at hround
  rw [hround]
  cases Token.joined lead tokens with
  | error e => rfl
  | ok events => simp [Round.after, Functor.map, Except.map, bind, Except.bind]

theorem readEvents_charsOf {tokens : List Token} (h : ∀ token ∈ tokens, token.IsPlain) :
    readEvents (Token.charsOf tokens) = Token.joined [] tokens := by
  have hround := readRound_charsOf h [] (by simp)
  rw [List.nil_append] at hround
  rw [readEvents, hround]
  cases Token.joined [] tokens with
  | error e => rfl
  | ok events =>
    have hnil : readRound true none [] = .ok ⟨[], none, []⟩ := readRound_nil true none
    simp only [bind, Except.bind, pure, Except.pure, Functor.map, Except.map, hnil]
    simp

/-! ## Text next to text -/

theorem addLeaf_addLeaf_text (building : Building) (first second : String) :
    (building.addLeaf (.text first)).addLeaf (.text second) =
      building.addLeaf (.text (first ++ second)) := by
  obtain ⟨⟨head, nodes⟩, outer, nextId⟩ := building
  unfold Building.addLeaf
  cases nodes with
  | leaf leaf nodes => cases leaf <;> simp [Frame.addLeaf, String.append_assoc]
  | _ => simp [Frame.addLeaf]

theorem foldl_textEvents_append (first second : List Char) (building : Building) :
    (textEvents (first ++ second)).foldl Building.add building =
      (textEvents first ++ textEvents second).foldl Building.add building := by
  cases first with
  | nil => rfl
  | cons c first =>
    cases second with
    | nil => simp [textEvents]
    | cons d second =>
      have hjoin := addLeaf_addLeaf_text building (String.ofList (c :: first))
        (String.ofList (d :: second))
      rw [← String.ofList_append] at hjoin
      exact hjoin.symm

/-- Joined or not, the texts of tokens make the same tree. -/
theorem foldl_joined : ∀ (tokens : List Token) (lead : List Char) (building : Building),
    (fun events => events.foldl Building.add building) <$> Token.joined lead tokens =
      (fun events => (textEvents lead ++ events).foldl Building.add building) <$>
        Token.eventsOf tokens
  | [], lead, building => by
    simp only [Token.joined, Token.eventsOf, Functor.map, Except.map, List.append_nil]
  | token :: tokens, lead, building => by
    cases ht : token.isText with
    | true =>
      cases token with
      | text data =>
        have hmore := foldl_joined tokens (lead ++ data) building
        have hevents : Token.eventsOf (.text data :: tokens) =
            (fun events => textEvents data ++ events) <$> Token.eventsOf tokens := rfl
        rw [hevents, Functor.map_map, Token.joined, hmore]
        simp only [List.foldl_append, foldl_textEvents_append]
      | _ => exact absurd ht (by simp [Token.isText])
    | false =>
      rw [Token.joined_of_isText_eq_false ht, Token.eventsOf, map_bind, map_bind]
      refine bind_congr fun events => ?_
      have hmore := foldl_joined tokens []
        ((textEvents lead ++ events).foldl Building.add building)
      simp only [textEvents, List.nil_append] at hmore
      simp only [Functor.map_map, List.foldl_append] at hmore ⊢
      exact hmore

/-- The document of plain tokens is the one that their events describe. -/
theorem parse_charsOf {tokens : List Token} (h : ∀ token ∈ tokens, token.IsPlain) :
    parse (String.ofList (Token.charsOf tokens)) = ofEvents <$> Token.eventsOf tokens := by
  have hfold := congrArg (Functor.map Building.finish) (foldl_joined tokens [] Building.start)
  rw [Functor.map_map, Functor.map_map] at hfold
  rw [parse, String.toList_ofList, readEvents_charsOf h]
  exact hfold

end PageCompiler.Markup
