import PageCompiler.Proofs.Markup.Names
import PageCompiler.Proofs.Results
import PageCompiler.Markup.Tree

/-!
# The names of start tags

A start tag that is read begins with `<` and its name as it is written, and carries that name in
small letters (`isNamed_of_readStartTag`). An element takes its tag from the start tag again,
cutting off as many characters as the small name has. That is the written name unless small letters
made it longer, which they do only to names that are not ASCII (`tag_readHead`).
-/

namespace PageCompiler.Text

/-! ## Lengths in small letters -/

theorem length_lowerChar (c : Char) : (lowerChar c).length = if c = 'İ' then 2 else 1 := by
  by_cases h : c = 'İ'
  · subst h
    decide
  · unfold lowerChar
    rw [if_neg h, if_neg h]
    split <;> rfl

/-- Only one letter gets longer in small letters, by one character, and none gets shorter. -/
theorem length_lowerAfter : ∀ (cs before : List Char),
    (lowerAfter before cs).length = cs.length + cs.count 'İ'
  | [], _ => rfl
  | c :: rest, before => by
    have ih := length_lowerAfter rest (c :: before)
    rw [lowerAfter, List.length_append, ih, List.length_cons, List.count_cons]
    by_cases hsigma : c = capitalSigma
    · have hother : (c == 'İ') = false := by
        rw [hsigma]
        decide
      rw [if_pos hsigma, hother, List.length_singleton, if_neg Bool.false_ne_true]
      omega
    · rw [if_neg hsigma, length_lowerChar]
      simp only [beq_iff_eq]
      split <;> omega

/-- That letter leaves a character in small letters that is not ASCII. -/
theorem not_ascii_lowerAfter : ∀ {cs : List Char}, 'İ' ∈ cs → ∀ before : List Char,
    ∃ c ∈ lowerAfter before cs, 128 ≤ c.toNat
  | d :: rest, h, before => by
    rw [lowerAfter]
    rcases List.mem_cons.1 h with rfl | h
    · rw [if_neg (by decide)]
      exact ⟨Char.ofNat 0x307, List.mem_append_left _ (by decide), by decide⟩
    · obtain ⟨c, hmem, hc⟩ := not_ascii_lowerAfter h (d :: before)
      exact ⟨c, List.mem_append_right _ hmem, hc⟩

/-! ## Capitals in small letters -/

theorem Shift.apply_cases (n : Nat) : ∀ shifts : List Shift, Shift.apply shifts n = n ∨
    ∃ shift ∈ shifts, shift.first ≤ n ∧ n ≤ shift.last ∧
      Shift.apply shifts n = (n + shift.delta).toNat
  | [] => .inl rfl
  | shift :: shifts => by
    rw [apply]
    split
    · next hmoves =>
      simp only [Bool.and_eq_true, decide_eq_true_eq] at hmoves
      exact .inr ⟨shift, List.mem_cons_self, hmoves.1.1, hmoves.1.2, rfl⟩
    · exact (apply_cases n shifts).imp id fun ⟨other, hmem, hrest⟩ =>
        ⟨other, List.mem_cons_of_mem _ hmem, hrest⟩

/-- No letter beyond ASCII goes to an ASCII capital. -/
theorem lt_apply_lowerShifts {n : Nat} (h : 128 ≤ n) : 90 < Shift.apply lowerShifts n := by
  have htable : ∀ shift ∈ lowerShifts, shift.last < 128 ∨ 90 < shift.first + shift.delta := by
    decide +kernel
  obtain hsame | ⟨shift, hmem, hfirst, hlast, heq⟩ := Shift.apply_cases n lowerShifts
  · omega
  · rcases htable shift hmem with hascii | hbeyond <;> omega

theorem isUpper_ofNat {n : Nat} (h : 90 < n) : (Char.ofNat n).isUpper = false := by
  have hcode : (Char.ofNat n).toNat = n ∨ (Char.ofNat n).toNat = 0 := by
    by_cases hvalid : n.isValidChar
    · exact .inl (congrArg Char.toNat (dif_pos hvalid))
    · exact .inr (congrArg Char.toNat (dif_neg hvalid))
  refine Bool.eq_false_iff.2 fun hupper => ?_
  have hbounds : 65 ≤ (Char.ofNat n).toNat ∧ (Char.ofNat n).toNat ≤ 90 := of_decide_eq_true hupper
  omega

theorem isUpper_of_mem_lowerChar {c d : Char} (h : d ∈ lowerChar c) : d.isUpper = false := by
  unfold lowerChar at h
  split at h
  · next hascii =>
    obtain rfl := List.mem_singleton.1 h
    exact Markup.forall_ascii (P := fun c => c.toLower.isUpper = false) (by decide +kernel) hascii
  · next hascii =>
    split at h
    · simp only [List.mem_cons, List.not_mem_nil, or_false] at h
      rcases h with rfl | rfl <;> decide
    · obtain rfl := List.mem_singleton.1 h
      exact isUpper_ofNat (lt_apply_lowerShifts (Nat.le_of_not_lt hascii))

theorem isUpper_of_mem_lowerAfter {d : Char} : ∀ {cs before : List Char},
    d ∈ lowerAfter before cs → d.isUpper = false
  | c :: rest, before, h => by
    rw [lowerAfter] at h
    rcases List.mem_append.1 h with h | h
    · split at h
      · obtain rfl := List.mem_singleton.1 h
        unfold lowerSigma
        split <;> decide
      · exact isUpper_of_mem_lowerChar h
    · exact isUpper_of_mem_lowerAfter h

/-- No ASCII capital is left in small letters. -/
theorem isUpper_of_mem_lower {text : String} {c : Char} (h : c ∈ (lower text).toList) :
    c.isUpper = false := by
  rw [lower, String.toList_ofList] at h
  exact isUpper_of_mem_lowerAfter h

end PageCompiler.Text

namespace PageCompiler.Markup

/-! ## Start tags -/

/-- The name behind the bracket of a start tag, as it is written. -/
def writtenName (spelling : String) : String :=
  String.ofList ((spelling.toList.drop 1).takeWhile isTagNameChar)

/-- An event that is a start tag begins with a bracket and a letter and carries its written name in
small letters. -/
def Event.IsNamed : Event → Prop
  | .startTag spelling name _ _ =>
    (∃ c rest, spelling.toList = '<' :: c :: rest ∧ isLetter c) ∧
      name = Text.lower (writtenName spelling)
  | _ => True

/-- The name that a text begins with is the one that a part of it begins with, if that goes on
behind the name. -/
theorem takeWhile_of_append {p : Char → Bool} {text back rest : List Char} (hne : back ≠ [])
    (h : back ++ rest = text.dropWhile p) :
    (text.takeWhile p ++ back).takeWhile p = text.takeWhile p := by
  obtain ⟨c, more, rfl⟩ := List.exists_cons_of_ne_nil hne
  have hstop := List.head?_dropWhile_not p text
  rw [← h] at hstop
  refine takeWhile_append (List.all_eq_true.1 List.all_takeWhile) fun d hd => ?_
  obtain rfl := Option.some.inj hd
  exact hstop

/-- How a start tag ends. -/
def tagClosing (selfClosing : Bool) : List Char :=
  if selfClosing then ['/', '>'] else ['>']

/-- A start tag up to its attributes, given what stands behind its bracket. -/
def tagFront (text : List Char) : List Char :=
  ['<'] ++ text.takeWhile isTagNameChar ++ (splitSeparators (text.dropWhile isTagNameChar)).1

/-- The attributes of a start tag, and what stands behind them. -/
def tagAttributes (text : List Char) : List WrittenAttribute × List Char :=
  readAttributes ((tagFront text).getLastD '<') (splitSeparators (text.dropWhile isTagNameChar)).2

/-- What a start tag is read as, given what stands behind its bracket : the attributes can be read,
and behind them the tag ends. -/
structure TagReading (text spelling : List Char) (name : String)
    (values : List (String × Option String)) (selfClosing : Bool) (rest : List Char) : Prop where
  name_eq : name = Text.lower (String.ofList (text.takeWhile isTagNameChar))
  values_eq : attributesOf (tagAttributes text).1 = .ok values
  closing_eq : (tagAttributes text).2 = tagClosing selfClosing ++ rest
  spelling_eq : spelling = tagFront text ++
    (tagAttributes text).1.flatMap WrittenAttribute.spelling ++ tagClosing selfClosing

section

variable {text spelling rest : List Char} {name : String} {values : List (String × Option String)}
  {selfClosing : Bool}

/-- A start tag is read just in this way. -/
theorem tagReading_of_readStartTag
    (h : readStartTag ('<' :: text) = .ok (.tag spelling name values selfClosing, rest)) :
    TagReading text spelling name values selfClosing rest := by
  unfold readStartTag at h
  simp only [List.drop_succ_cons, List.drop_zero, List.take_succ_cons, List.take_zero] at h
  rw [← tagFront, ← tagAttributes] at h
  have finish : ∀ (closed : Bool) (tail : List Char),
      (tagAttributes text).2 = tagClosing closed ++ tail → (do
        let values ← attributesOf (tagAttributes text).1
        return (StartTag.tag (tagFront text ++
          (tagAttributes text).1.flatMap WrittenAttribute.spelling ++ tagClosing closed)
          (Text.lower (String.ofList (text.takeWhile isTagNameChar))) values closed, tail) :
        Except Error (StartTag × List Char)) = .ok (.tag spelling name values selfClosing, rest) →
      TagReading text spelling name values selfClosing rest := by
    intro closed tail hclosing h
    obtain ⟨found, hvalues, hpair⟩ := bind_eq_ok h
    obtain ⟨htag, rfl⟩ := Prod.mk.inj (Except.ok.inj hpair)
    obtain ⟨rfl, rfl, rfl, rfl⟩ := StartTag.tag.inj htag
    exact ⟨rfl, hvalues, hclosing, rfl⟩
  split at h
  · cases h
  · next tail heq => exact finish false tail heq h
  · next tail heq => exact finish true tail heq h
  · split at h <;> cases h

theorem TagReading.readStartTag (h : TagReading text spelling name values selfClosing rest) :
    readStartTag ('<' :: text) = .ok (.tag spelling name values selfClosing, rest) := by
  unfold Markup.readStartTag
  simp only [List.drop_succ_cons, List.drop_zero, List.take_succ_cons, List.take_zero]
  rw [← tagFront, ← tagAttributes, h.closing_eq, h.values_eq, h.name_eq, h.spelling_eq]
  cases selfClosing <;> rfl

end

/-- A start tag that is read consists of `<`, the longest name and what goes on behind it. -/
theorem readStartTag_parts {text spelling rest : List Char} {name : String}
    {attributes : List (String × Option String)} {selfClosing : Bool}
    (h : readStartTag ('<' :: text) = .ok (.tag spelling name attributes selfClosing, rest)) :
    name = Text.lower (String.ofList (text.takeWhile isTagNameChar)) ∧
      ∃ back, back ≠ [] ∧ back ++ rest = text.dropWhile isTagNameChar ∧
        spelling = '<' :: (text.takeWhile isTagNameChar ++ back) := by
  obtain ⟨rfl, -, hclosing, rfl⟩ := tagReading_of_readStartTag h
  have hseparators := splitSeparators_append (text.dropWhile isTagNameChar)
  have hattributes := readAttributes_spelling ((tagFront text).getLastD '<')
    (splitSeparators (text.dropWhile isTagNameChar)).2
  rw [← tagAttributes, hclosing] at hattributes
  refine ⟨rfl, (splitSeparators (text.dropWhile isTagNameChar)).1 ++
    ((tagAttributes text).1.flatMap WrittenAttribute.spelling ++ tagClosing selfClosing),
    ?_, ?_, ?_⟩
  · cases selfClosing <;> simp [tagClosing]
  · rw [List.append_assoc, List.append_assoc, hattributes, hseparators]
  · simp only [tagFront, List.append_assoc, List.cons_append, List.nil_append]

/-- A start tag that is read carries its written name in small letters. -/
theorem isNamed_of_readStartTag {c : Char} {text spelling rest : List Char} {name : String}
    {attributes : List (String × Option String)} {selfClosing : Bool} (hc : isLetter c)
    (h : readStartTag ('<' :: c :: text) =
      .ok (.tag spelling name attributes selfClosing, rest)) :
    (Event.startTag (String.ofList spelling) name attributes selfClosing).IsNamed := by
  obtain ⟨rfl, back, hne, hback, rfl⟩ := readStartTag_parts h
  have hfirst : (c :: text).takeWhile isTagNameChar = c :: text.takeWhile isTagNameChar :=
    List.takeWhile_cons_of_pos (nameChar_reads (isNameChar_of_isLetter hc)).1
  refine ⟨⟨c, text.takeWhile isTagNameChar ++ back, by simp [hfirst], hc⟩, ?_⟩
  simp [writtenName, takeWhile_of_append hne hback]

/-! ## Elements -/

/-- An element is named with as many characters as its written name has in small letters. -/
theorem sourceTag_readHead_eq {spelling name : String}
    (h : name = Text.lower (writtenName spelling)) (id : Nat)
    (attributes : List (String × Option String)) (selfClosing : Bool) :
    (Building.readHead id spelling name attributes selfClosing).sourceTag =
      String.ofList ((spelling.toList.drop 1).take
        ((writtenName spelling).length + (writtenName spelling).toList.count 'İ')) := by
  have hlength : name.length =
      (writtenName spelling).length + (writtenName spelling).toList.count 'İ' := by
    rw [h, Text.lower, String.length_ofList, Text.length_lowerAfter, String.length_toList]
  rw [Building.readHead, hlength]

/-- An element keeps the name that is written in its start tag, unless small letters make that
longer. -/
theorem sourceTag_readHead {spelling name : String} (h : name = Text.lower (writtenName spelling))
    (hshort : 'İ' ∉ (writtenName spelling).toList) (id : Nat)
    (attributes : List (String × Option String)) (selfClosing : Bool) :
    (Building.readHead id spelling name attributes selfClosing).sourceTag =
      writtenName spelling := by
  have hparts := List.takeWhile_append_dropWhile (p := isTagNameChar) (l := spelling.toList.drop 1)
  rw [sourceTag_readHead_eq h, List.count_eq_zero.2 hshort, Nat.add_zero, writtenName,
    String.length_ofList]
  exact congrArg String.ofList ((congrArg (List.take _) hparts.symm).trans List.take_left)

/-- An element has the name of its start tag as its tag, if that name is ASCII. -/
theorem tag_readHead_of_ascii {spelling name : String}
    (h : name = Text.lower (writtenName spelling)) (hascii : ∀ c ∈ name.toList, c.toNat < 128)
    (id : Nat) (attributes : List (String × Option String)) (selfClosing : Bool) :
    (Building.readHead id spelling name attributes selfClosing).tag = name := by
  have hshort : 'İ' ∉ (writtenName spelling).toList := by
    intro hlong
    obtain ⟨c, hmem, hc⟩ := Text.not_ascii_lowerAfter hlong []
    have hlt := hascii c (by rwa [h, Text.lower, String.toList_ofList])
    omega
  rw [Head.tag, sourceTag_readHead h hshort, h]

/-- An element has the name of its start tag as its tag, if that tag is ASCII. -/
theorem tag_readHead {spelling name : String} (h : name = Text.lower (writtenName spelling))
    (id : Nat) (attributes : List (String × Option String)) (selfClosing : Bool)
    (hascii : ∀ c ∈ (Building.readHead id spelling name attributes selfClosing).tag.toList,
      c.toNat < 128) :
    (Building.readHead id spelling name attributes selfClosing).tag = name := by
  have hparts := List.takeWhile_append_dropWhile (p := isTagNameChar) (l := spelling.toList.drop 1)
  rw [writtenName] at h
  rw [Head.tag, Building.readHead] at hascii ⊢
  dsimp only at hascii ⊢
  generalize (spelling.toList.drop 1).takeWhile isTagNameChar = written at *
  generalize (spelling.toList.drop 1).dropWhile isTagNameChar = back at *
  rw [← hparts] at hascii ⊢
  have hlength : name.length = (Text.lowerAfter [] written).length := by
    rw [h, Text.lower, String.toList_ofList, String.length_ofList]
  have hle : written.length ≤ (Text.lowerAfter [] written).length :=
    Text.length_lowerAfter written [] ▸ Nat.le_add_right _ _
  rw [hlength] at hascii ⊢
  rw [List.take_append, List.take_of_length_le hle] at hascii ⊢
  by_cases hlong : 'İ' ∈ written
  · -- Then the tag has a small letter that is not ASCII.
    obtain ⟨c, hmem, hc⟩ := Text.not_ascii_lowerAfter (List.mem_append_left
      (back.take ((Text.lowerAfter [] written).length - written.length)) hlong) []
    have hlt := hascii c (by rwa [Text.lower, String.toList_ofList, String.toList_ofList])
    omega
  · rw [Text.length_lowerAfter, List.count_eq_zero.2 hlong, Nat.add_zero, Nat.sub_self,
      List.take_zero, List.append_nil, h]

end PageCompiler.Markup
