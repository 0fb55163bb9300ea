/-!
# Keyed lists

A keyed list holds one value under each of some names, in the order in which the names were first
given. `put` replaces the value under a name that is present, where it stands, and otherwise adds
the name at the end; so attributes, parameters and declarations keep the order of the page.

`get?_put` says what looking up finds after a `put`, and `keys_put` that the order of the names
never changes.
-/

namespace PageCompiler

/-- Values under names, in the order in which the names were first given. -/
abbrev Keyed (α : Type) := List (String × α)

namespace Keyed

variable {α : Type}

/-- The names, in order. -/
def keys (entries : Keyed α) : List String :=
  entries.map Prod.fst

/-- The value under a name. -/
def get? (entries : Keyed α) (key : String) : Option α :=
  match entries with
  | [] => none
  | (k, v) :: rest => if k = key then some v else get? rest key

/-- Some value stands under the name. -/
def has (entries : Keyed α) (key : String) : Bool :=
  (entries.get? key).isSome

/-- Set the value under a name. -/
def put (entries : Keyed α) (key : String) (value : α) : Keyed α :=
  match entries with
  | [] => [(key, value)]
  | (k, v) :: rest => if k = key then (k, value) :: rest else (k, v) :: put rest key value

/-- Drop a name and its value. -/
def without (entries : Keyed α) (key : String) : Keyed α :=
  entries.filter fun entry => entry.1 ≠ key

/-- The keyed list of some pairs: of several with one name, the first gives the place and the last
the value. -/
def ofPairs (pairs : List (String × α)) : Keyed α :=
  pairs.foldl (fun entries pair => put entries pair.1 pair.2) []

/-! ## Looking up and order -/

theorem get?_put (entries : Keyed α) (key other : String) (value : α) :
    (entries.put key value).get? other =
      if key = other then some value else entries.get? other := by
  induction entries with
  | nil => simp [put, get?]
  | cons entry rest ih =>
    obtain ⟨k, v⟩ := entry
    by_cases hk : k = key
    · subst hk
      simp only [put, ↓reduceIte, get?]
      split <;> rfl
    · simp only [put, hk, ↓reduceIte, get?, ih]
      by_cases ho : k = other
      · subst ho
        simp [Ne.symm hk]
      · simp [ho]

theorem keys_put (entries : Keyed α) (key : String) (value : α) :
    (entries.put key value).keys =
      if key ∈ entries.keys then entries.keys else entries.keys ++ [key] := by
  induction entries with
  | nil => simp [put, keys]
  | cons entry rest ih =>
    obtain ⟨k, v⟩ := entry
    simp only [keys] at ih
    by_cases hk : k = key
    · simp [put, keys, hk]
    · simp only [put, hk, ↓reduceIte, keys, List.map_cons, ih]
      by_cases hm : key ∈ List.map Prod.fst rest <;> simp [hm, Ne.symm hk]

end Keyed

end PageCompiler
