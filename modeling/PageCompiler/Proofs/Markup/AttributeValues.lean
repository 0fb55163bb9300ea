import PageCompiler.Markup.Forest
import PageCompiler.Proofs.Keyed
import PageCompiler.Proofs.Markup.SpelledTag

/-!
# Attributes written and read back

A start tag written from its attributes is plain, whatever the values are : between double quotes a
value has no `"` left, and every `&` in it begins `&amp;` or `&quot;`. Replacing the references
gives the value again (`expand_escapeValue`), so the tag stands for the attributes it was written
from (`values_spelledTag`).
-/

namespace PageCompiler.Markup

/-! ## Values -/

/-- How one character of a value is written. -/
def escapeChar (c : Char) : List Char :=
  if c = '&' then "&amp;".toList else if c = '"' then "&quot;".toList else [c]

theorem toList_escapeValue (value : String) :
    (Head.escapeValue value).toList = value.toList.flatMap escapeChar := by
  rw [Head.escapeValue, String.toList_ofList]
  rfl

theorem quote_not_mem_escapeValue (value : String) : '"' ∉ (Head.escapeValue value).toList := by
  rw [toList_escapeValue, List.mem_flatMap]
  rintro ⟨c, -, hc⟩
  unfold escapeChar at hc
  split at hc
  · exact absurd hc (by decide)
  · split at hc
    · exact absurd hc (by decide)
    · next hne => exact hne (List.mem_singleton.1 hc).symm

/-- The name of a reference is read up to its semicolon. -/
theorem reference?_name {name : List Char} (hne : name ≠ []) (hlen : name.length < maxNameLength)
    (hname : name.all isNameInReference) {chars : List Char}
    (hchars : namedReference? name = some chars) (rest : List Char) :
    reference? (name ++ ';' :: rest) = .ok (some (chars, name.length + 1)) := by
  have htake : ((name ++ ';' :: rest).take maxNameLength).takeWhile isNameInReference = name := by
    obtain ⟨n, hn⟩ := Nat.exists_eq_add_of_lt hlen
    rw [hn, Nat.add_assoc, List.take_length_add_append, List.take_succ_cons]
    exact takeWhile_append (List.all_eq_true.1 hname) (by rintro c ⟨⟩; decide)
  have hdrop : (name ++ ';' :: rest).drop name.length = ';' :: rest := List.drop_left
  unfold reference?
  split
  · next heq =>
    obtain ⟨c, more, rfl⟩ := List.exists_cons_of_ne_nil hne
    have hc := List.all_eq_true.1 hname c List.mem_cons_self
    rw [(List.cons.inj heq).1] at hc
    exact absurd hc (by decide)
  · simp only [htake, hdrop, if_neg hne, semicolonWidth]
    simp [expandName, hchars]

theorem expandFrom_drop : ∀ (front rest : List Char),
    expandFrom front.length (front ++ rest) = expandFrom 0 rest
  | [], _ => rfl
  | _ :: front, rest => expandFrom_drop front rest

/-- A reference with a name is replaced as a whole. -/
theorem expandFrom_name {name : List Char} (hne : name ≠ []) (hlen : name.length < maxNameLength)
    (hname : name.all isNameInReference) {chars : List Char}
    (hchars : namedReference? name = some chars) (rest : List Char) :
    expandFrom 0 ('&' :: (name ++ ';' :: rest)) = (chars ++ ·) <$> expandFrom 0 rest := by
  have hskip := expandFrom_drop (name ++ [';']) rest
  rw [List.length_append, List.length_singleton, List.append_assoc] at hskip
  rw [expandFrom, if_pos rfl, reference?_name hne hlen hname hchars]
  exact congrArg ((chars ++ ·) <$> ·) hskip

theorem expandFrom_escapeChar (c : Char) (rest : List Char) :
    expandFrom 0 (escapeChar c ++ rest) = (c :: ·) <$> expandFrom 0 rest := by
  have hamp : namedReference? "amp".toList = some ['&'] := by decide +kernel
  have hquot : namedReference? "quot".toList = some ['"'] := by decide +kernel
  unfold escapeChar
  split
  · next hc =>
    subst hc
    exact expandFrom_name (by decide) (by decide) (by decide) hamp rest
  · split
    · next hc =>
      subst hc
      exact expandFrom_name (by decide) (by decide) (by decide) hquot rest
    · next hne _ => rw [List.singleton_append, expandFrom, if_neg hne]

/-- An escaped value stands for the value. -/
theorem expand_escapeValue (value : String) :
    expand (Head.escapeValue value).toList = .ok value.toList := by
  rw [toList_escapeValue, expand]
  induction value.toList with
  | nil => rfl
  | cons c rest ih =>
    rw [List.flatMap_cons, expandFrom_escapeChar, ih]
    rfl

/-! ## Attributes -/

/-- A plain name without capitals. -/
def IsSmallName (chars : List Char) : Prop :=
  IsName chars ∧ ∀ c ∈ chars, c.isUpper = false

instance : DecidablePred IsSmallName := fun chars =>
  decidable_of_iff (IsName chars ∧ chars.all fun c => !c.isUpper) (by simp [IsSmallName])

theorem IsSmallName.lower {name : String} (h : IsSmallName name.toList) :
    Text.lower name = name := by
  have hmap : name.toList.map Char.toLower = name.toList :=
    (List.map_congr_left fun c hc => toLower_eq_self (h.1.ascii c hc) (h.2 c hc)).trans
      (List.map_id _)
  rw [← String.ofList_toList (s := name), lower_ascii h.1.ascii, hmap]

/-- An attribute as it is written from its value. -/
def spelledAttribute (entry : String × Option String) : SpelledAttribute :=
  ⟨entry.1.toList, entry.2.map fun value => ('"', (Head.escapeValue value).toList)⟩

theorem spelledAttribute_isPlain {entry : String × Option String} (h : IsName entry.1.toList) :
    (spelledAttribute entry).IsPlain where
  name := h
  value := by
    intro quote value hvalue
    obtain ⟨whole, -, hpair⟩ := Option.map_eq_some_iff.1 hvalue
    obtain ⟨rfl, rfl⟩ := Prod.mk.inj hpair
    exact ⟨by decide, quote_not_mem_escapeValue whole⟩

theorem toList_spellAttribute (entry : String × Option String) :
    (Head.spellAttribute entry).toList = ' ' :: (spelledAttribute entry).chars := by
  obtain ⟨name, value⟩ := entry
  cases value <;>
    simp [Head.spellAttribute, spelledAttribute, SpelledAttribute.chars,
      SpelledAttribute.valueChars]

/-- Attributes with small names are read back as they were written. -/
theorem attributesOf_spelledAttribute : ∀ {attributes : Attributes},
    (∀ name ∈ attributes.keys, IsSmallName name.toList) →
    attributesOf ((attributes.map spelledAttribute).map fun a => a.written []) = .ok attributes
  | [], _ => rfl
  | (name, value) :: rest, h => by
    have hname := (h name List.mem_cons_self).lower
    have hrest := attributesOf_spelledAttribute fun other hm => h other (List.mem_cons_of_mem _ hm)
    rw [List.map_cons, List.map_cons, attributesOf, hrest]
    cases value with
    | none =>
      simp only [SpelledAttribute.written, spelledAttribute, String.ofList_toList, hname,
        Option.map_none]
      rfl
    | some value =>
      simp only [SpelledAttribute.written, spelledAttribute, String.ofList_toList, hname,
        Option.map_some, expand_escapeValue, Functor.map, Except.map, Function.comp_apply]
      rfl

/-! ## Heads that were not read -/

namespace Head

/-- What holds of an element that is built from a tag and attributes : names are plain, and an end
tag belongs to it. -/
structure IsBuilt (head : Head) : Prop where
  name : IsName head.sourceTag.toList
  keys_nodup : head.attributes.keys.Nodup
  keys_small : ∀ key ∈ head.attributes.keys, IsSmallName key.toList
  not_written : head.written = none
  hasEndTag : head.hasEndTag = true

instance : DecidablePred IsBuilt := fun head =>
  decidable_of_iff (IsName head.sourceTag.toList ∧ head.attributes.keys.Nodup ∧
      (∀ key ∈ head.attributes.keys, IsSmallName key.toList) ∧ head.written = none ∧
      head.hasEndTag = true)
    ⟨fun ⟨h₁, h₂, h₃, h₄, h₅⟩ => ⟨h₁, h₂, h₃, h₄, h₅⟩,
      fun ⟨h₁, h₂, h₃, h₄, h₅⟩ => ⟨h₁, h₂, h₃, h₄, h₅⟩⟩

/-- The start tag that is written from the attributes. -/
def spelledTag (head : Head) : SpelledTag :=
  ⟨head.sourceTag.toList, head.attributes.map spelledAttribute, head.selfClosing⟩

variable {head : Head}

theorem tagName_spelledTag (head : Head) : head.spelledTag.tagName = head.tag := by
  rw [SpelledTag.tagName, spelledTag, String.ofList_toList, Head.tag]

theorem spelledTag_isPlain (h : head.IsBuilt) : head.spelledTag.IsPlain where
  name := h.name
  attributes := by
    intro a ha
    obtain ⟨entry, hentry, rfl⟩ := List.mem_map.1 ha
    exact spelledAttribute_isPlain (h.keys_small entry.1 (List.mem_map_of_mem hentry)).1

/-- The start tag is spelled as a plain one. -/
theorem toList_startTag (h : head.IsBuilt) : head.startTag.toList = head.spelledTag.chars := by
  have hattributes : (String.join (head.attributes.map spellAttribute)).toList =
      SpelledTag.attributeChars (head.attributes.map spelledAttribute) := by
    simp only [String.toList_join, List.flatMap_map, toList_spellAttribute,
      SpelledTag.attributeChars]
  rw [startTag, h.not_written]
  simp only [String.toList_append, hattributes]
  cases hself : head.selfClosing <;>
    simp [SpelledTag.chars, SpelledTag.closing, spelledTag, hself]

/-- The tag stands for the attributes that it was written from. -/
theorem values_spelledTag (h : head.IsBuilt) : head.spelledTag.values = .ok head.attributes :=
  attributesOf_spelledAttribute h.keys_small

theorem event_spelledTag (h : head.IsBuilt) :
    head.spelledTag.event = .ok (.startTag (String.ofList head.spelledTag.chars)
      head.spelledTag.tagName head.attributes head.spelledTag.selfClosing) := by
  rw [SpelledTag.event, values_spelledTag h]
  rfl

/-- The tag is read as the head, apart from what only an element that was read has. -/
theorem read_spelledTag (h : head.IsBuilt) (id : Nat) :
    head.spelledTag.head id head.attributes =
      { head with
        id, written := some (String.ofList head.spelledTag.chars), hasEndTag := false } := by
  have hsource := SpelledTag.sourceTag_head (spelledTag_isPlain h) id head.attributes
  simp only [SpelledTag.head, Building.readHead, spelledTag, String.ofList_toList] at hsource ⊢
  rw [hsource, Keyed.ofPairs_of_nodup h.keys_nodup]

end Head

end PageCompiler.Markup
