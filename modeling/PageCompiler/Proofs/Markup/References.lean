import Mathlib.Data.List.Infix
import PageCompiler.Proofs.Markup.WrittenTags
import PageCompiler.Proofs.OutputParts

/-!
# References in text

`Refers` says what a reference at the front of a text is and where it stops, without the semicolon
behind it. A number goes on as long as there are digits and ends before another character; a name
goes on as long as it can, and at the end of the text leaves its last hyphen or point
(`NameEnds`). The readers find just these (`referenceAt?_eq_some_iff`).
-/

namespace PageCompiler.Markup

/-- The number of a reference : digits, or an `x` and hexadecimal digits. -/
inductive IsNumber : List Char → Prop
  | decimal {digits : List Char} (hne : digits ≠ []) (h : ∀ c ∈ digits, isDigit c) :
      IsNumber digits
  | hexadecimal {x : Char} {digits : List Char} (hx : x = 'x' ∨ x = 'X') (hne : digits ≠ [])
      (h : ∀ c ∈ digits, isHexDigit c) : IsNumber (x :: digits)

/-- The name of a reference ends before the other characters of a text. It goes on as long as it
can; at the end of the text it leaves its last hyphen or point. -/
inductive NameEnds : List Char → List Char → Prop
  | whole {c d : Char} {name after : List Char} (hc : isLetter c)
      (hname : ∀ e ∈ name, isReferenceNameChar e) (hd : isReferenceNameChar d = false) :
      NameEnds (c :: name) (d :: after)
  | cut {c d : Char} {name after : List Char} (hc : isLetter c)
      (hname : ∀ e ∈ name, isReferenceNameChar e) (hd : isLooseEnd d)
      (hafter : ∀ e ∈ after, isLetter e || isDigit e) : NameEnds (c :: name) (d :: after)

/-- The front of a text is a reference, without its semicolon, and the other characters follow. -/
inductive Refers : List Char → List Char → Prop
  | number {number after : List Char} {d : Char} (hnumber : IsNumber number)
      (hd : isHexDigit d = false) : Refers ('&' :: '#' :: number) (d :: after)
  | name {name after : List Char} (h : NameEnds name after) : Refers ('&' :: name) after

/-- The reference at the front of a text, and what follows it. -/
def referenceAt? : List Char → Option (List Char × List Char)
  | '&' :: '#' :: rest =>
    (numericReference? rest).map fun found =>
      ('&' :: '#' :: found.1, rest.drop found.1.length)
  | '&' :: rest =>
    (nameOfReference? rest).map fun found => ('&' :: found.1, rest.drop found.1.length)
  | _ => none

/-! ## Numbers -/

theorem isDigit_of_isHexDigit_eq_false {c : Char} (h : isHexDigit c = false) :
    isDigit c = false := by
  simp only [isHexDigit, Bool.or_eq_false_iff] at h
  exact h.1.1

theorem splitNumber?_eq_some {text number rest : List Char}
    (h : splitNumber? text = some (number, rest)) : text = number ++ rest ∧ IsNumber number := by
  have hall : ∀ (p : Char → Bool) (cs : List Char), ∀ c ∈ cs.takeWhile p, p c :=
    fun p cs c hmem => List.mem_takeWhile_imp hmem
  unfold splitNumber? at h
  split at h
  · next hne =>
    obtain ⟨rfl, rfl⟩ := Prod.mk.inj (Option.some.inj h)
    exact ⟨List.takeWhile_append_dropWhile.symm, .decimal hne (hall _ _)⟩
  · split at h
    · cases h
    · next mark more =>
      split at h
      · next hmark =>
        obtain ⟨rfl, rfl⟩ := Prod.mk.inj (Option.some.inj h)
        refine ⟨?_, .hexadecimal hmark.1 hmark.2 (hall _ _)⟩
        rw [List.cons_append, List.takeWhile_append_dropWhile]
      · cases h

theorem splitNumber?_of_isNumber {number after : List Char} {d : Char} (h : IsNumber number)
    (hd : isHexDigit d = false) :
    splitNumber? (number ++ d :: after) = some (number, d :: after) := by
  have hsplit : ∀ {p : Char → Bool} {digits : List Char}, (∀ c ∈ digits, p c) → p d = false →
      (digits ++ d :: after).takeWhile p = digits ∧
        (digits ++ d :: after).dropWhile p = d :: after := by
    intro p digits hdigits hp
    have hend : ∀ c ∈ (d :: after).head?, p c = false := by
      rintro c ⟨⟩
      exact hp
    exact ⟨takeWhile_append hdigits hend, dropWhile_append hdigits hend⟩
  unfold splitNumber?
  cases h with
  | decimal hne hdigits =>
    obtain ⟨htake, hdrop⟩ := hsplit hdigits (isDigit_of_isHexDigit_eq_false hd)
    rw [htake, hdrop, if_pos hne]
  | @hexadecimal x digits hx hne hdigits =>
    obtain ⟨htake, hdrop⟩ := hsplit hdigits hd
    have hmark : isDigit x = false := by rcases hx with rfl | rfl <;> decide
    simp [hmark, htake, hdrop, hne, hx]

theorem numericReference?_eq_some_iff {text number rest : List Char} :
    numericReference? text = some (number, rest) ↔
      ∃ d after, text = number ++ d :: after ∧ rest = dropSemicolon (d :: after) ∧
        IsNumber number ∧ isHexDigit d = false := by
  constructor
  · intro h
    unfold numericReference? at h
    split at h
    · cases h
    · next hsplit =>
      obtain ⟨rfl, hnumber⟩ := splitNumber?_eq_some hsplit
      split at h
      · cases h
      · next d after =>
        split at h
        · cases h
        · next hd =>
          obtain ⟨rfl, rfl⟩ := Prod.mk.inj (Option.some.inj h)
          exact ⟨d, after, rfl, rfl, hnumber, by simpa using hd⟩
  · rintro ⟨d, after, rfl, rfl, hnumber, hd⟩
    simp [numericReference?, splitNumber?_of_isNumber hnumber hd, hd]

/-! ## Names -/

theorem isReferenceNameChar_eq (c : Char) :
    isReferenceNameChar c = (isLetter c || isDigit c || isLooseEnd c) := by
  simp [isReferenceNameChar, isLooseEnd, Bool.or_assoc]

/-- No letter or digit is a hyphen or a point. -/
theorem isLooseEnd_eq_false {c : Char} (h : isLetter c || isDigit c) : isLooseEnd c = false := by
  have hc : isNameChar c := by simp [isNameChar, h]
  exact forall_ascii (P := fun c => (isLetter c || isDigit c) → isLooseEnd c = false)
    (by decide +kernel) (isNameChar_ascii hc) h

theorem dropSemicolon_of_ne {d : Char} (hd : d ≠ ';') (after : List Char) :
    dropSemicolon (d :: after) = d :: after := by
  unfold dropSemicolon
  split
  · next heq => exact absurd (List.cons.inj heq).1 hd
  · rfl

theorem dropSemicolon_of_isLooseEnd {d : Char} (hd : isLooseEnd d) (after : List Char) :
    dropSemicolon (d :: after) = d :: after :=
  dropSemicolon_of_ne (by rintro rfl; exact absurd hd (by decide)) after

theorem NameEnds.nameOfReference? {name after : List Char} (h : NameEnds name after) :
    nameOfReference? (name ++ after) = some (name, dropSemicolon after) := by
  cases h with
  | @whole c d name after hc hname hd =>
    have hend : ∀ e ∈ (d :: after).head?, isReferenceNameChar e = false := by
      rintro e ⟨⟩
      exact hd
    simp only [List.cons_append, Markup.nameOfReference?, hc, if_true, dropWhile_append hname hend,
      takeWhile_append hname hend]
  | @cut c d name after hc hname hd hafter =>
    have hall : ∀ e ∈ name ++ d :: after, isReferenceNameChar e := by
      simp only [List.mem_append, List.mem_cons, isReferenceNameChar_eq, Bool.or_eq_true]
      rintro e (he | rfl | he)
      · simpa [isReferenceNameChar_eq] using hname e he
      · exact .inr hd
      · exact .inl (by simpa using hafter e he)
    have hcut := Text.splitBeforeLast?_append_cons hd
      (fun e he => isLooseEnd_eq_false (hafter e he)) name
    rw [List.cons_append, Markup.nameOfReference?, if_pos hc, List.dropWhile_eq_nil_iff.2 hall,
      hcut, dropSemicolon_of_isLooseEnd hd]
    rfl

theorem nameOfReference?_eq_some {text name rest : List Char}
    (h : nameOfReference? text = some (name, rest)) :
    ∃ after, text = name ++ after ∧ rest = dropSemicolon after ∧ NameEnds name after := by
  unfold nameOfReference? at h
  split at h
  · cases h
  · next c more =>
    split at h
    · next hc =>
      split at h
      · next hall =>
        obtain ⟨cut, hcut, hpair⟩ := Option.map_eq_some_iff.1 h
        have hall := List.dropWhile_eq_nil_iff.1 hall
        obtain ⟨hnone, -⟩ | ⟨before, d, after, hsome, hd, hafter⟩ :=
          Text.splitBeforeLast?_cases isLooseEnd more
        · cases hnone.symm.trans hcut
        · obtain rfl := Option.some.inj (hsome.symm.trans hcut)
          obtain ⟨rfl, rfl⟩ := Prod.mk.inj hpair
          have hmore := Text.splitBeforeLast?_append hsome
          rw [← hmore] at hall
          obtain ⟨hbefore, hbehind⟩ := List.forall_mem_append.1 hall
          refine ⟨d :: after, by rw [← hmore]; rfl, (dropSemicolon_of_isLooseEnd hd after).symm,
            .cut hc hbefore hd fun e he => ?_⟩
          have hchar := hbehind e (List.mem_cons_of_mem d he)
          rwa [isReferenceNameChar_eq, hafter e he, Bool.or_false] at hchar
      · next after hne =>
        obtain ⟨rfl, rfl⟩ := Prod.mk.inj (Option.some.inj h)
        have hname : ∀ e ∈ more.takeWhile isReferenceNameChar, isReferenceNameChar e :=
          fun e hmem => List.mem_takeWhile_imp hmem
        have hstop := List.head?_dropWhile_not isReferenceNameChar more
        cases hdrop : more.dropWhile isReferenceNameChar with
        | nil => exact absurd hdrop hne
        | cons d after =>
          rw [hdrop] at hstop
          refine ⟨d :: after, ?_, rfl, .whole hc hname hstop⟩
          rw [← hdrop, List.cons_append, List.takeWhile_append_dropWhile]
    · cases h

/-! ## Both -/

/-- The reader of references finds what the front of a text refers to, and nothing else. -/
theorem referenceAt?_eq_some_iff {text reference after : List Char} :
    referenceAt? text = some (reference, after) ↔
      text = reference ++ after ∧ Refers reference after := by
  constructor
  · intro h
    unfold referenceAt? at h
    split at h
    · next rest =>
      obtain ⟨⟨number, behind⟩, hnumber, hpair⟩ := Option.map_eq_some_iff.1 h
      obtain ⟨d, tail, rfl, -, hnumber, hd⟩ := numericReference?_eq_some_iff.1 hnumber
      obtain ⟨rfl, rfl⟩ := Prod.mk.inj hpair
      simpa using Refers.number hnumber hd
    · next rest _ =>
      obtain ⟨⟨name, behind⟩, hname, hpair⟩ := Option.map_eq_some_iff.1 h
      obtain ⟨tail, rfl, -, hname⟩ := nameOfReference?_eq_some hname
      obtain ⟨rfl, rfl⟩ := Prod.mk.inj hpair
      simpa using Refers.name hname
    · cases h
  · rintro ⟨rfl, href⟩
    cases href with
    | @number number after d hnumber hd =>
      have hread := numericReference?_eq_some_iff.2 ⟨d, after, rfl, rfl, hnumber, hd⟩
      simp [referenceAt?, hread]
    | @name name after hname =>
      have hread := hname.nameOfReference?
      have hhash : ∀ rest, name ++ after ≠ '#' :: rest := by
        rintro rest heq
        have hletter : ∃ c rest, name = c :: rest ∧ isLetter c := by
          cases hname with
          | whole hc => exact ⟨_, _, rfl, hc⟩
          | cut hc => exact ⟨_, _, rfl, hc⟩
        obtain ⟨c, more, rfl, hc⟩ := hletter
        exact (letter_begins hc).2.1 (List.cons.inj heq).1
      unfold referenceAt?
      split
      · next heq => exact absurd (List.cons.inj heq).2 (hhash _)
      · next heq =>
        obtain rfl := (List.cons.inj heq).2
        simp [hread]
      · next hother => exact absurd rfl (hother _)

end PageCompiler.Markup
