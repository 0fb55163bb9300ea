import Mathlib.Data.List.Basic
import PageCompiler.Component.ClassTag
import PageCompiler.Proofs.Path

/-!
# The words of a component

A component finds its elements by two words of their class attribute, its class tag and its name
(`tokens`). Either of them has the short name of the component (`shortName_of_mem_tokens`), also a
class tag that is the short name itself, since a short name holds no point. So a word that two
declared components share gives them one short name; but then each goes by its full name alone, and
the names differ (`disjoint_tokens`).
-/

namespace PageCompiler.Component

/-! ## Short names -/

theorem exists_splitAtLast {c : Char} : ∀ {chars : List Char}, c ∈ chars →
    ∃ before after, chars = before ++ c :: after ∧ c ∉ after
  | d :: chars, h => by
    by_cases hrest : c ∈ chars
    · obtain ⟨before, after, rfl, hafter⟩ := exists_splitAtLast hrest
      exact ⟨d :: before, after, rfl, hafter⟩
    · obtain rfl : c = d := (List.mem_cons.1 h).resolve_right hrest
      exact ⟨[], chars, rfl, hrest⟩

theorem shortName_of_not_mem {name : String} (h : '.' ∉ name.toList) : shortName name = name := by
  have hnone : ∀ c ∈ name.toList, (c == '.') = false := fun c hc =>
    beq_eq_false_iff_ne.2 fun he => h (he ▸ hc)
  rw [shortName, Text.splitBeforeLast?_of_none hnone]

/-- The short name is the whole name, if that has no point, or what stands behind the last one. -/
theorem shortName_cases (name : String) :
    ('.' ∉ name.toList ∧ shortName name = name) ∨
      ∃ before after, name.toList = before ++ '.' :: after ∧ '.' ∉ after ∧
        shortName name = String.ofList after := by
  by_cases hpoint : '.' ∈ name.toList
  · obtain ⟨before, after, hname, hafter⟩ := exists_splitAtLast hpoint
    have hnone : ∀ c ∈ after, (c == '.') = false := fun c hc =>
      beq_eq_false_iff_ne.2 fun he => hafter (he ▸ hc)
    refine .inr ⟨before, after, hname, hafter, ?_⟩
    rw [shortName, hname, Text.splitBeforeLast?_append_cons rfl hnone]
    rfl
  · exact .inl ⟨hpoint, shortName_of_not_mem hpoint⟩

theorem point_not_mem_shortName (name : String) : '.' ∉ (shortName name).toList := by
  obtain ⟨hpoint, hshort⟩ | ⟨_, after, _, hafter, hshort⟩ := shortName_cases name
  · rwa [hshort]
  · rwa [hshort, String.toList_ofList]

theorem shortName_shortName (name : String) : shortName (shortName name) = shortName name :=
  shortName_of_not_mem (point_not_mem_shortName name)

/-! ## Class tags -/

theorem classTag_cases (name : String) (declared : List String) :
    classTag name declared = name ∨ classTag name declared = shortName name := by
  unfold classTag
  split
  · exact .inl rfl
  · exact .inr rfl

/-- A component that shares its short name goes by its full name. -/
theorem classTag_of_shared {declared : List String} {name other : String} (hmem : other ∈ declared)
    (hne : other ≠ name) (hshort : shortName other = shortName name) :
    classTag name declared = name := by
  refine if_pos (List.any_eq_true.2 ⟨other, hmem, ?_⟩)
  rw [Bool.and_eq_true, bne_iff_ne, beq_iff_eq]
  exact ⟨hne, hshort⟩

/-- A class tag depends on which names are declared, not on their order or how often. -/
theorem classTag_congr {declared again : List String}
    (h : ∀ name, name ∈ again ↔ name ∈ declared) (name : String) :
    classTag name again = classTag name declared := by
  have hany : ∀ p : String → Bool, again.any p = declared.any p := by
    intro p
    rw [Bool.eq_iff_iff, List.any_eq_true, List.any_eq_true]
    simp only [h]
  rw [classTag, classTag, hany]

/-! ## Tokens -/

/-- The words of a class attribute by which a component finds its elements. -/
def tokens (declared : List String) (name : String) : List String :=
  [classTag name declared, name]

theorem shortName_of_mem_tokens {declared : List String} {name word : String}
    (h : word ∈ tokens declared name) : shortName word = shortName name := by
  rcases List.mem_pair.1 h with rfl | rfl
  · obtain htag | htag := classTag_cases name declared
    · rw [htag]
    · rw [htag, shortName_shortName]
  · rfl

/-- No word belongs to two of the declared components. -/
theorem disjoint_tokens {declared : List String} {name other : String} (hname : name ∈ declared)
    (hother : other ∈ declared) (hne : name ≠ other) :
    (tokens declared name).Disjoint (tokens declared other) := by
  intro word hword hword'
  have hshort : shortName name = shortName other :=
    (shortName_of_mem_tokens hword).symm.trans (shortName_of_mem_tokens hword')
  -- the short name is shared, so both components go by their full names
  rw [tokens, classTag_of_shared hother hne.symm hshort.symm] at hword
  rw [tokens, classTag_of_shared hname hne hshort] at hword'
  simp only [List.mem_cons, List.not_mem_nil, or_false, or_self] at hword hword'
  exact hne (hword.symm.trans hword')

end PageCompiler.Component
