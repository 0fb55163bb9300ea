import Mathlib.Data.List.TakeWhile
import PageCompiler.Markup.StartTag
import PageCompiler.Proofs.Results
import PageCompiler.Text.Cut

/-!
# References with too many digits

The references of an attribute value are replaced one behind the other, and what is replaced holds
no second `&`. So a value cannot be read if and only if somewhere in it stands a decimal reference
with too many digits to be taken for a number (`exists_expand_eq_ok_iff`).
-/

namespace PageCompiler.Markup

/-- A text begins with a decimal reference that has too many digits, this many. -/
inductive LongReference : List Char → Nat → Prop
  | mk {digits rest : List Char} (hdigits : ∀ c ∈ digits, isDigit c)
      (hrest : ∀ c ∈ rest.head?, isDigit c = false) (hlong : Text.maxDigits < digits.length) :
      LongReference ('&' :: '#' :: (digits ++ rest)) digits.length

/-- Somewhere in a value stands a decimal reference with too many digits. -/
def HasLongReference (value : List Char) : Prop :=
  ∃ back n, back <:+ value ∧ LongReference back n

theorem forall_head?_dropWhile (p : Char → Bool) (text : List Char) :
    ∀ c ∈ (text.dropWhile p).head?, p c = false := by
  intro c hc
  have hstop := List.head?_dropWhile_not p text
  rw [hc] at hstop
  exact hstop

/-- With more text behind it a long reference may go on, and is long all the same. -/
theorem LongReference.append {back : List Char} {n : Nat} (h : LongReference back n)
    (later : List Char) : ∃ m, LongReference (back ++ later) m := by
  obtain @⟨digits, rest, hdigits, -, hlong⟩ := h
  have hsplit := List.takeWhile_append_dropWhile (p := isDigit) (l := digits ++ (rest ++ later))
  have hmore : digits.length ≤ ((digits ++ (rest ++ later)).takeWhile isDigit).length := by
    rw [List.takeWhile_append_of_pos hdigits, List.length_append]
    exact Nat.le_add_right _ _
  have hmk := LongReference.mk (fun c hc => List.mem_takeWhile_imp hc)
    (forall_head?_dropWhile isDigit (digits ++ (rest ++ later))) (hlong.trans_le hmore)
  rw [hsplit, ← List.append_assoc] at hmk
  exact ⟨_, hmk⟩

theorem HasLongReference.of_inside {value text : List Char} (h : HasLongReference value)
    (hv : value <:+: text) : HasLongReference text := by
  obtain ⟨back, n, ⟨front, rfl⟩, hlong⟩ := h
  obtain ⟨before, after, rfl⟩ := hv
  obtain ⟨m, hm⟩ := hlong.append after
  exact ⟨back ++ after, m, ⟨before ++ front, by simp⟩, hm⟩

/-! ## One reference -/

theorem reference?_eq_error_iff {text : List Char} {e : Error} :
    reference? text = .error e ↔ ∃ n, LongReference ('&' :: text) n ∧ e = .referenceTooLong n := by
  constructor
  · intro h
    unfold reference? at h
    split at h
    · next rest =>
      dsimp only at h
      split at h
      · split at h
        · next hlong =>
          refine ⟨_, ?_, (Except.error.inj h).symm⟩
          have hmk := LongReference.mk (fun c hc => List.mem_takeWhile_imp hc)
            (forall_head?_dropWhile isDigit rest) hlong
          rwa [List.takeWhile_append_dropWhile] at hmk
        · cases h
      · split at h
        · cases h
        · split at h <;> cases h
    · dsimp only at h
      split at h <;> cases h
  · rintro ⟨_, @⟨digits, rest, hdigits, hrest, hlong⟩, rfl⟩
    have hne : digits ≠ [] := by
      rintro rfl
      exact absurd hlong (by decide)
    simp only [reference?, takeWhile_append hdigits hrest, hne, hlong, ne_eq, not_false_eq_true,
      if_true]

/-- What belongs to a reference, with its semicolon, holds no `&` if the reference does not. -/
theorem not_mem_take_of_front {front text : List Char} (hp : front <+: text) (h : '&' ∉ front) :
    '&' ∉ text.take (front.length + semicolonWidth (text.drop front.length)) := by
  obtain ⟨back, rfl⟩ := hp
  rw [List.drop_left, List.take_length_add_append, List.mem_append]
  rintro (hfront | hback)
  · exact h hfront
  · unfold semicolonWidth at hback
    split at hback
    · exact absurd hback (by simp)
    · exact absurd hback (by simp)

theorem not_mem_take_of_reference? {text chars : List Char} {width : Nat}
    (h : reference? text = .ok (some (chars, width))) : '&' ∉ text.take width := by
  unfold reference? at h
  split at h
  · next rest =>
    dsimp only at h
    split at h
    · split at h
      · cases h
      · obtain ⟨-, rfl⟩ := Prod.mk.inj (Option.some.inj (Except.ok.inj h))
        have hdigits : '&' ∉ rest.takeWhile isDigit := fun hmem =>
          absurd (List.mem_takeWhile_imp hmem) (by decide)
        have hfront : '#' :: rest.takeWhile isDigit <+: '#' :: rest :=
          List.cons_prefix_cons.2 ⟨rfl, List.takeWhile_prefix isDigit⟩
        have hnone := not_mem_take_of_front hfront
          (List.not_mem_cons_of_ne_of_not_mem (by decide) hdigits)
        rw [List.length_cons] at hnone
        rw [Nat.add_comm 1]
        exact hnone
    · split at h
      · cases h
      · next mark rest _ =>
        split at h
        · next hhex =>
          obtain ⟨-, rfl⟩ := Prod.mk.inj (Option.some.inj (Except.ok.inj h))
          have hdigits : '&' ∉ rest.takeWhile isHexDigit := fun hmem =>
            absurd (List.mem_takeWhile_imp hmem) (by decide)
          have hmark : '&' ≠ mark := by
            rintro rfl
            exact absurd hhex.1 (by decide)
          have hfront : '#' :: mark :: rest.takeWhile isHexDigit <+: '#' :: mark :: rest :=
            List.cons_prefix_cons.2 ⟨rfl, List.cons_prefix_cons.2
              ⟨rfl, List.takeWhile_prefix isHexDigit⟩⟩
          have hnone := not_mem_take_of_front hfront
            (List.not_mem_cons_of_ne_of_not_mem (by decide)
              (List.not_mem_cons_of_ne_of_not_mem hmark hdigits))
          rw [List.length_cons, List.length_cons] at hnone
          rw [Nat.add_comm 2]
          exact hnone
        · cases h
  · dsimp only at h
    split at h
    · cases h
    · obtain ⟨-, rfl⟩ := Prod.mk.inj (Option.some.inj (Except.ok.inj h))
      have hshort : (text.take maxNameLength).takeWhile isNameInReference <+:
          text.take maxNameLength := List.takeWhile_prefix _
      have hfront := hshort.trans <| List.take_prefix maxNameLength text
      exact not_mem_take_of_front hfront fun hmem =>
        absurd (List.mem_takeWhile_imp hmem) (by decide)

/-! ## Whole values -/

theorem longReference_of_expandFrom {skip : Nat} {text : List Char} {e : Error}
    (h : expandFrom skip text = .error e) :
    ∃ back n, back <:+ text ∧ LongReference back n ∧ e = .referenceTooLong n := by
  have behind {c : Char} {rest : List Char}
      (h : ∃ back n, back <:+ rest ∧ LongReference back n ∧ e = .referenceTooLong n) :
      ∃ back n, back <:+ c :: rest ∧ LongReference back n ∧ e = .referenceTooLong n := by
    obtain ⟨back, n, hback, hlong⟩ := h
    exact ⟨back, n, hback.trans (List.suffix_cons _ _), hlong⟩
  fun_induction expandFrom skip text with
  | case1 skip => cases h
  | case2 skip c rest ih => exact behind (ih h)
  | case3 rest e' hreference =>
    obtain rfl := Except.error.inj h
    obtain ⟨n, hlong, he⟩ := reference?_eq_error_iff.1 hreference
    exact ⟨_, n, List.suffix_refl _, hlong, he⟩
  | case4 rest hreference ih => exact behind (ih (map_eq_error h))
  | case5 rest chars width hreference ih => exact behind (ih (map_eq_error h))
  | case6 c rest hc ih => exact behind (ih (map_eq_error h))

theorem LongReference.head_eq {c : Char} {rest : List Char} {n : Nat}
    (h : LongReference (c :: rest) n) : c = '&' := by
  cases h
  rfl

theorem not_longReference_of_ok {text : List Char} {found : Option (List Char × Nat)}
    (h : reference? text = .ok found) (n : Nat) : ¬LongReference ('&' :: text) n := fun hlong => by
  rw [reference?_eq_error_iff.2 ⟨n, hlong, rfl⟩] at h
  cases h

theorem HasLongReference.of_cons {c : Char} {rest : List Char} (h : HasLongReference (c :: rest))
    (hno : ∀ n, ¬LongReference (c :: rest) n) : HasLongReference rest := by
  obtain ⟨back, n, hback, hlong⟩ := h
  rcases List.suffix_cons_iff.1 hback with rfl | hrest
  · exact absurd hlong (hno n)
  · exact ⟨back, n, hrest, hlong⟩

/-- What is passed over hides no long reference if it holds no `&`. -/
theorem expandFrom_ne_ok {skip : Nat} {text chars : List Char} (hskip : '&' ∉ text.take skip)
    (h : HasLongReference text) : expandFrom skip text ≠ .ok chars := by
  fun_induction expandFrom skip text generalizing chars with
  | case1 skip =>
    obtain ⟨back, n, hback, hlong⟩ := h
    obtain rfl := List.suffix_nil.1 hback
    cases hlong
  | case2 skip c rest ih =>
    rw [List.take_succ_cons, List.mem_cons, not_or] at hskip
    exact ih hskip.2 (h.of_cons fun n hlong => hskip.1 hlong.head_eq.symm)
  | case3 rest e hreference => exact fun hok => by cases hok
  | case4 rest hreference ih =>
    intro hok
    obtain ⟨more, hmore, -⟩ := map_eq_ok hok
    exact ih (by simp) (h.of_cons (not_longReference_of_ok hreference)) hmore
  | case5 rest chars width hreference ih =>
    intro hok
    obtain ⟨more, hmore, -⟩ := map_eq_ok hok
    exact ih (not_mem_take_of_reference? hreference)
      (h.of_cons (not_longReference_of_ok hreference)) hmore
  | case6 c rest hc ih =>
    intro hok
    obtain ⟨more, hmore, -⟩ := map_eq_ok hok
    exact ih (by simp) (h.of_cons fun n hlong => hc hlong.head_eq) hmore

/-- A value cannot be read if and only if it has a decimal reference with too many digits. -/
theorem exists_expand_eq_ok_iff {value : List Char} :
    (∃ chars, expand value = .ok chars) ↔ ¬HasLongReference value := by
  constructor
  · rintro ⟨chars, hok⟩ hlong
    exact expandFrom_ne_ok (by simp) hlong hok
  · intro hno
    cases h : expand value with
    | ok chars => exact ⟨chars, rfl⟩
    | error e =>
      obtain ⟨back, n, hback, hlong, -⟩ := longReference_of_expandFrom h
      exact absurd ⟨back, n, hback, hlong⟩ hno

/-! ## Attributes -/

/-- Attributes are read one behind the other. -/
theorem attributesOf_cons_some {a : WrittenAttribute} {value : List Char}
    (ha : a.value = some value) (rest : List WrittenAttribute) :
    attributesOf (a :: rest) = expand value >>= fun chars =>
      ((Text.lower (String.ofList a.name), some (String.ofList chars)) :: ·) <$>
        attributesOf rest := by
  rw [attributesOf, ha]
  dsimp only
  cases expand value with
  | error e => rfl
  | ok chars => cases attributesOf rest <;> rfl

theorem attributesOf_cons_none {a : WrittenAttribute} (ha : a.value = none)
    (rest : List WrittenAttribute) :
    attributesOf (a :: rest) =
      ((Text.lower (String.ofList a.name), none) :: ·) <$> attributesOf rest := by
  rw [attributesOf, ha]
  dsimp only
  cases attributesOf rest <;> rfl

/-- Attributes cannot be read for the first value that cannot. -/
theorem exists_expand_eq_error : ∀ {attributes : List WrittenAttribute} {e : Error},
    attributesOf attributes = .error e →
      ∃ a ∈ attributes, ∃ value, a.value = some value ∧ expand value = .error e
  | [], _, h => by cases h
  | a :: rest, e, h => by
    have later (h : attributesOf rest = .error e) :
        ∃ b ∈ a :: rest, ∃ value, b.value = some value ∧ expand value = .error e := by
      obtain ⟨b, hb, hvalue⟩ := exists_expand_eq_error h
      exact ⟨b, List.mem_cons_of_mem _ hb, hvalue⟩
    cases ha : a.value with
    | none =>
      rw [attributesOf_cons_none ha] at h
      exact later (map_eq_error h)
    | some value =>
      rw [attributesOf_cons_some ha] at h
      rcases bind_eq_error h with hvalue | ⟨chars, -, h⟩
      · exact ⟨a, List.mem_cons_self, value, ha, hvalue⟩
      · exact later (map_eq_error h)

/-- Attributes are read only if each of their values can be. -/
theorem exists_expand_eq_ok : ∀ {attributes : List WrittenAttribute}
    {values : List (String × Option String)}, attributesOf attributes = .ok values →
      ∀ b ∈ attributes, ∀ value, b.value = some value → ∃ chars, expand value = .ok chars
  | [], _, _, b, hmem, _, _ => by cases hmem
  | a :: rest, values, h, b, hmem, value, hb => by
    have hrest : ∃ later, attributesOf rest = .ok later := by
      cases ha : a.value with
      | none =>
        rw [attributesOf_cons_none ha] at h
        obtain ⟨later, hlater, -⟩ := map_eq_ok h
        exact ⟨later, hlater⟩
      | some first =>
        rw [attributesOf_cons_some ha] at h
        obtain ⟨chars, -, h⟩ := bind_eq_ok h
        obtain ⟨later, hlater, -⟩ := map_eq_ok h
        exact ⟨later, hlater⟩
    obtain ⟨later, hlater⟩ := hrest
    rcases List.mem_cons.1 hmem with rfl | hmem
    · rw [attributesOf_cons_some hb] at h
      obtain ⟨chars, hchars, -⟩ := bind_eq_ok h
      exact ⟨chars, hchars⟩
    · exact exists_expand_eq_ok hlater b hmem value hb

end PageCompiler.Markup
