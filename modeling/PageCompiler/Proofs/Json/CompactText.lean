import Mathlib.Data.Bool.AllAny
import PageCompiler.Proofs.Json.QuotedText

/-!
# Compact JSON inside other texts

A text or a record of texts in the compact form shows nothing but printable ASCII, and it says where
it ends : what stands behind it can be told from it, and different values have different forms
(`compactText_append_inj`, `compactTexts_append_inj`). For a text this is so because it can be read
back, and for a record since only a comma goes on after an entry.
-/

namespace PageCompiler.Json

/-! ## Printable ASCII -/

/-- A character of ASCII that has a glyph, or the blank. -/
def IsPlain (c : Char) : Prop :=
  0x20 ≤ c.toNat ∧ c.toNat < 0x7F

instance : DecidablePred IsPlain :=
  fun _ => inferInstanceAs (Decidable (_ ∧ _))

/-- A text of printable ASCII. -/
def IsPlainText (text : String) : Prop :=
  ∀ c ∈ text.toList, IsPlain c

instance : DecidablePred IsPlainText :=
  fun text => List.decidableBAll IsPlain text.toList

theorem isPlainText_append {first second : String} :
    IsPlainText (first ++ second) ↔ IsPlainText first ∧ IsPlainText second := by
  unfold IsPlainText
  rw [String.toList_append, List.forall_mem_append]

theorem isPlain_hexDigit : ∀ n < 16, IsPlain (Text.hexDigit n) := by
  decide

theorem isPlain_unitEscape (n : Nat) : ∀ c ∈ unitEscape n, IsPlain c := by
  have hdigit : ∀ k, IsPlain (Text.hexDigit (k % 16)) :=
    fun k => isPlain_hexDigit _ (Nat.mod_lt _ (by decide))
  intro c hc
  simp only [unitEscape, hexDigits_four, List.mem_cons, List.not_mem_nil, or_false] at hc
  rcases hc with rfl | rfl | rfl | rfl | rfl | rfl
  · decide
  · decide
  all_goals exact hdigit _

/-- However a character is spelled in the compact form, the spelling is printable ASCII. -/
theorem isPlain_asciiChar (c : Char) : ∀ d ∈ asciiChar c, IsPlain d := by
  unfold asciiChar
  split
  · next letter h =>
    unfold escapeLetter? at h
    split at h
    all_goals first
      | obtain rfl := Option.some.inj h; exact List.all_iff_forall_prop.1 (by decide)
      | cases h
  · split
    · next hc => exact fun d hd => List.mem_singleton.1 hd ▸ hc
    · split
      · exact isPlain_unitEscape _
      · exact List.forall_mem_append.2 ⟨isPlain_unitEscape _, isPlain_unitEscape _⟩

theorem isPlainText_compactText (value : String) : IsPlainText (compactText value) := by
  intro c hc
  rw [compactText, toList_quote] at hc
  rcases List.mem_cons.1 hc with rfl | hc
  · decide
  · rcases List.mem_append.1 hc with hc | hc
    · obtain ⟨d, -, hd⟩ := List.mem_flatMap.1 hc
      exact isPlain_asciiChar d c hd
    · rw [List.mem_singleton.1 hc]
      decide

/-! ## Reading back -/

/-- A text in the compact form is read back in either manner, whatever characters it holds. -/
theorem readWith_compactText (manner : Manner) (depth : Nat) (value : String) :
    readWith manner depth (compactText value) = .ok (.text value) := by
  have hread := fun opening => readText_flatMap (spells_asciiChar manner) opening [] value.toList
  have hchars : (compactText value).toList = '"' :: (value.toList.flatMap asciiChar ++ ['"']) :=
    toList_quote asciiChar value
  have hquote : skipSpace ('"' :: (value.toList.flatMap asciiChar ++ ['"'])) =
      '"' :: (value.toList.flatMap asciiChar ++ ['"']) := rfl
  rw [readWith, hchars]
  dsimp only
  rw [hquote, enoughSteps, readValue, hread, Except.map, String.ofList_toList]
  rfl

theorem readAny_compactText (value : String) : readAny (compactText value) = .ok (.text value) :=
  readWith_compactText .tolerant _ value

/-! ## Telling texts apart -/

/-- A text in the compact form determines the value and what stands behind it. -/
theorem compactText_append_inj {first second : String} {x y : List Char}
    (h : (compactText first).toList ++ x = (compactText second).toList ++ y) :
    first = second ∧ x = y := by
  have hread := fun value rest =>
    readText_flatMap (spells_asciiChar .strict) 0 rest (String.toList value)
  simp only [compactText, toList_quote, List.cons_append, List.append_assoc, List.nil_append] at h
  have hsame := (hread first x).symm.trans ((List.cons.inj h).2 ▸ hread second y)
  obtain ⟨hvalue, hrest⟩ := Prod.mk.inj (Except.ok.inj hsame)
  exact ⟨String.toList_inj.1 hvalue, hrest⟩

theorem compactText_inj {first second : String} :
    compactText first = compactText second ↔ first = second := by
  refine ⟨fun h => ?_, congrArg compactText⟩
  exact (compactText_append_inj (congrArg (String.toList · ++ []) h)).1

/-- The characters of an entry in the compact form. -/
def pairChars (entry : String × String) : List Char :=
  (compactText entry.1).toList ++ ':' :: ' ' :: (compactText entry.2).toList

theorem pairChars_append_inj {first second : String × String} {x y : List Char}
    (h : pairChars first ++ x = pairChars second ++ y) : first = second ∧ x = y := by
  simp only [pairChars, List.append_assoc, List.cons_append] at h
  obtain ⟨hkey, h⟩ := compactText_append_inj h
  obtain ⟨hvalue, h⟩ := compactText_append_inj (List.cons.inj (List.cons.inj h).2).2
  exact ⟨Prod.ext hkey hvalue, h⟩

theorem toList_compactTexts_nil : (compactTexts []).toList = ['\x7b', '\x7d'] := by
  simp [compactTexts]

theorem toList_compactTexts_cons (entry : String × String) (rest : Keyed String) :
    (compactTexts (entry :: rest)).toList =
      '\x7b' :: (pairChars entry ++
        ((rest.flatMap fun other => ',' :: ' ' :: pairChars other) ++ ['\x7d'])) := by
  have hpair : ∀ other : String × String,
      (compactText other.1 ++ ": " ++ compactText other.2).toList = pairChars other := by
    intro other
    rw [pairChars, String.toList_append, String.toList_append, List.append_assoc]
    rfl
  have hparts : ((entry :: rest).map fun other =>
      compactText other.1 ++ ": " ++ compactText other.2).map String.toList =
        (entry :: rest).map pairChars := by
    rw [List.map_map]
    exact List.map_congr_left fun other _ => hpair other
  have hopen : "\x7b".toList = ['\x7b'] := rfl
  have hclose : "\x7d".toList = ['\x7d'] := rfl
  have hcomma : ", ".toList = [',', ' '] := rfl
  rw [compactTexts, String.toList_append, String.toList_append, String.toList_intercalate, hparts,
    List.map_cons, intercalate_cons, List.flatMap_map, hopen, hclose, hcomma]
  simp only [List.cons_append, List.nil_append, List.append_assoc]

/-- Entries behind others end at the brace. -/
theorem flatMap_pairChars_inj : ∀ {first second : Keyed String} {x y : List Char},
    (first.flatMap fun entry => ',' :: ' ' :: pairChars entry) ++ '\x7d' :: x =
      (second.flatMap fun entry => ',' :: ' ' :: pairChars entry) ++ '\x7d' :: y →
    first = second ∧ x = y
  | [], [], x, y, h => ⟨rfl, (List.cons.inj h).2⟩
  | [], _ :: _, x, y, h => absurd (List.cons.inj h).1 (by decide)
  | _ :: _, [], x, y, h => absurd (List.cons.inj h).1 (by decide)
  | entry :: first, other :: second, x, y, h => by
    simp only [List.flatMap_cons, List.cons_append, List.append_assoc] at h
    obtain ⟨hentry, h⟩ := pairChars_append_inj (List.cons.inj (List.cons.inj h).2).2
    obtain ⟨hrest, h⟩ := flatMap_pairChars_inj h
    exact ⟨hentry ▸ hrest ▸ rfl, h⟩

theorem head?_pairChars (entry : String × String) (x : List Char) :
    (pairChars entry ++ x).head? = some '"' := by
  rw [pairChars, compactText, toList_quote]
  rfl

/-- A record of texts in the compact form determines its entries, their order and what stands behind
it. -/
theorem compactTexts_append_inj : ∀ {first second : Keyed String} {x y : List Char},
    (compactTexts first).toList ++ x = (compactTexts second).toList ++ y →
      first = second ∧ x = y
  | [], [], x, y, h => by
    rw [toList_compactTexts_nil] at h
    exact ⟨rfl, (List.cons.inj (List.cons.inj h).2).2⟩
  | [], other :: second, x, y, h => by
    simp only [toList_compactTexts_nil, toList_compactTexts_cons, List.cons_append,
      List.append_assoc] at h
    have hhead := congrArg List.head? (List.cons.inj h).2
    rw [head?_pairChars] at hhead
    exact absurd (Option.some.inj hhead) (by decide)
  | entry :: first, [], x, y, h => by
    simp only [toList_compactTexts_nil, toList_compactTexts_cons, List.cons_append,
      List.append_assoc] at h
    have hhead := congrArg List.head? (List.cons.inj h).2
    rw [head?_pairChars] at hhead
    exact absurd (Option.some.inj hhead) (by decide)
  | entry :: first, other :: second, x, y, h => by
    rw [toList_compactTexts_cons, toList_compactTexts_cons] at h
    simp only [List.cons_append, List.append_assoc, List.nil_append] at h
    obtain ⟨hentry, h⟩ := pairChars_append_inj (List.cons.inj h).2
    obtain ⟨hrest, h⟩ := flatMap_pairChars_inj h
    exact ⟨hentry ▸ hrest ▸ rfl, h⟩

theorem isPlain_pairChars (entry : String × String) : ∀ c ∈ pairChars entry, IsPlain c := by
  refine List.forall_mem_append.2 ⟨isPlainText_compactText _, ?_⟩
  exact List.forall_mem_cons.2 ⟨by decide, List.forall_mem_cons.2
    ⟨by decide, isPlainText_compactText _⟩⟩

theorem isPlainText_compactTexts : ∀ entries : Keyed String, IsPlainText (compactTexts entries)
  | [] => by
    rw [IsPlainText, toList_compactTexts_nil]
    exact List.all_iff_forall_prop.1 (by decide)
  | entry :: rest => by
    rw [IsPlainText, toList_compactTexts_cons]
    refine List.forall_mem_cons.2 ⟨by decide, List.forall_mem_append.2
      ⟨isPlain_pairChars entry, List.forall_mem_append.2
        ⟨fun c hc => ?_, List.forall_mem_singleton.2 (by decide)⟩⟩⟩
    obtain ⟨other, -, hother⟩ := List.mem_flatMap.1 hc
    exact List.forall_mem_cons.2 ⟨by decide, List.forall_mem_cons.2
      ⟨by decide, isPlain_pairChars other⟩⟩ c hother

end PageCompiler.Json
