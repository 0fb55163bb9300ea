/-!
# Cutting texts

`pieces` cuts a text at every character with a property; `splitBeforeLast?` cuts it once, before the
last such character. Nothing but the characters cut at is lost.
-/

namespace PageCompiler.Text

/-- The pieces between the characters with a property, empty ones included. -/
def pieces (p : Char → Bool) : List Char → List (List Char)
  | [] => [[]]
  | c :: rest =>
    if p c then [] :: pieces p rest
    else
      match pieces p rest with
      | [] => [[c]]
      | piece :: others => (c :: piece) :: others

/-- Cut before the last character with the property, which then stands in front of the second
part. -/
def splitBeforeLast? (p : Char → Bool) : List Char → Option (List Char × List Char)
  | [] => none
  | c :: rest =>
    match splitBeforeLast? p rest with
    | some (before, after) => some (c :: before, after)
    | none => if p c then some ([], c :: rest) else none

theorem pieces_holds_none {p : Char → Bool} {cs piece : List Char} (h : piece ∈ pieces p cs) :
    ∀ c ∈ piece, p c = false := by
  induction cs generalizing piece with
  | nil => simp_all [pieces]
  | cons d rest ih =>
    unfold pieces at h
    split at h
    · rcases List.mem_cons.1 h with rfl | h
      · simp
      · exact ih h
    · next hd =>
      split at h
      · simp_all
      · next first others hp =>
        rcases List.mem_cons.1 h with rfl | h
        · intro c hc
          rcases List.mem_cons.1 hc with rfl | hc
          · simpa using hd
          · exact ih (hp ▸ List.mem_cons_self) c hc
        · exact ih (hp ▸ List.mem_cons_of_mem _ h)

theorem splitBeforeLast?_append {p : Char → Bool} {cs before after : List Char}
    (h : splitBeforeLast? p cs = some (before, after)) : before ++ after = cs := by
  induction cs generalizing before with
  | nil => simp [splitBeforeLast?] at h
  | cons c rest ih =>
    unfold splitBeforeLast? at h
    split at h
    · next b a hba =>
      simp only [Option.some.injEq, Prod.mk.injEq] at h
      obtain ⟨rfl, rfl⟩ := h
      simp [ih hba]
    · split at h
      · simp only [Option.some.injEq, Prod.mk.injEq] at h
        simp [← h.1, ← h.2]
      · simp at h

end PageCompiler.Text

namespace PageCompiler

/-! ## Longest runs -/

theorem takeWhile_append {p : Char → Bool} {front back : List Char} (hf : ∀ c ∈ front, p c)
    (hb : ∀ c ∈ back.head?, p c = false) : (front ++ back).takeWhile p = front := by
  rw [List.takeWhile_append_of_pos hf]
  cases back with
  | nil => simp
  | cons c back => rw [List.takeWhile_cons_of_neg (by simp [hb c rfl]), List.append_nil]

theorem dropWhile_append {p : Char → Bool} {front back : List Char} (hf : ∀ c ∈ front, p c)
    (hb : ∀ c ∈ back.head?, p c = false) : (front ++ back).dropWhile p = back := by
  rw [List.dropWhile_append_of_pos hf]
  cases back with
  | nil => rfl
  | cons c back => rw [List.dropWhile_cons_of_neg (by simp [hb c rfl])]

end PageCompiler
