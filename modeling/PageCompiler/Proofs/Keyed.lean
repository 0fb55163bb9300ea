import PageCompiler.Keyed

/-!
# More about keyed lists

What looking up finds is an entry (`mem_of_get?`), and it goes along with a change of the values and
with a choice among the names. Pairs with distinct names are a keyed list as they stand
(`ofPairs_of_nodup`).

Where names are given several times, the first time gives the place and the last time the value : a
keyed list `Gathers` the pairs that were put into it, one after the other (`gathers_putAll`).
-/

namespace PageCompiler.Keyed

variable {α β : Type}

/-- Set the values of some pairs, one after the other. -/
def putAll (entries : Keyed α) (pairs : List (String × α)) : Keyed α :=
  pairs.foldl (fun entries pair => entries.put pair.1 pair.2) entries

/-- The value of the last pair with a name. -/
def last? (pairs : List (String × α)) (key : String) : Option α :=
  (pairs.filter fun pair => pair.1 = key).getLast?.map Prod.snd

/-- The entries stand for some pairs : every name once, in the order in which the names come first,
and with the value that it has last. -/
structure Gathers (pairs : List (String × α)) (entries : Keyed α) : Prop where
  keys_eq : entries.keys = (pairs.map Prod.fst).eraseDups
  get?_eq : ∀ key, entries.get? key = last? pairs key

/-! ## Looking up -/

theorem mem_of_get? : ∀ {entries : Keyed α} {key : String} {value : α},
    entries.get? key = some value → (key, value) ∈ entries
  | (k, v) :: rest, key, value, h => by
    rw [get?] at h
    split at h
    · next hk =>
      rw [hk, Option.some.inj h]
      exact List.mem_cons_self
    · exact List.mem_cons_of_mem _ (mem_of_get? h)

theorem exists_get?_of_mem : ∀ {entries : Keyed α} {key : String} {value : α},
    (key, value) ∈ entries → ∃ found, entries.get? key = some found
  | (k, v) :: rest, key, value, h => by
    rw [get?]
    split
    · exact ⟨v, rfl⟩
    · next hk =>
      rcases List.mem_cons.1 h with he | h
      · exact absurd (congrArg Prod.fst he).symm hk
      · exact exists_get?_of_mem h

theorem exists_get?_of_mem_keys {entries : Keyed α} {key : String} (h : key ∈ entries.keys) :
    ∃ value, entries.get? key = some value := by
  obtain ⟨⟨_, value⟩, hmem, rfl⟩ := List.mem_map.1 h
  exact exists_get?_of_mem hmem

theorem get?_map (f : α → β) (key : String) : ∀ entries : Keyed α,
    Keyed.get? (entries.map fun entry => (entry.1, f entry.2)) key = (entries.get? key).map f
  | [] => rfl
  | (k, v) :: rest => by
    rw [List.map_cons, get?, get?, get?_map f key rest]
    split <;> rfl

theorem get?_filter (p : String → Bool) (key : String) : ∀ entries : Keyed α,
    Keyed.get? (entries.filter fun entry => p entry.1) key =
      if p key then entries.get? key else none
  | [] => by simp [get?]
  | (k, v) :: rest => by
    have ih := get?_filter p key rest
    rw [List.filter_cons]
    by_cases hp : p k
    · rw [if_pos hp, get?, get?, ih]
      by_cases hk : k = key
      · rw [if_pos hk, if_pos hk, if_pos (hk ▸ hp)]
      · rw [if_neg hk, if_neg hk]
    · rw [if_neg hp, get?, ih]
      by_cases hk : k = key
      · rw [if_neg (hk ▸ hp), if_neg (hk ▸ hp)]
      · rw [if_neg hk]

/-! ## Setting a value -/

theorem mem_put {key : String} {value : α} {entry : String × α} : ∀ {entries : Keyed α},
    entry ∈ entries.put key value → entry = (key, value) ∨ entry ∈ entries
  | [], h => .inl (List.mem_singleton.1 h)
  | (k, v) :: rest, h => by
    rw [put] at h
    split at h
    · next hk =>
      rcases List.mem_cons.1 h with rfl | h
      · exact .inl (congrArg (·, value) hk)
      · exact .inr (List.mem_cons_of_mem _ h)
    · rcases List.mem_cons.1 h with rfl | h
      · exact .inr List.mem_cons_self
      · exact (mem_put h).imp id (List.mem_cons_of_mem _)

/-- Nothing changes when the value is the one under the name already. -/
theorem put_of_get? {key : String} {value : α} : ∀ {entries : Keyed α},
    entries.get? key = some value → entries.put key value = entries
  | (k, v) :: rest, h => by
    rw [get?] at h
    rw [put]
    split at h
    · next hk => rw [if_pos hk, Option.some.inj h]
    · next hk => rw [if_neg hk, put_of_get? h]

theorem keys_prefix_put (entries : Keyed α) (key : String) (value : α) :
    entries.keys <+: (entries.put key value).keys := by
  rw [keys_put]
  split
  · exact List.prefix_rfl
  · exact List.prefix_append _ _

/-- No name is given twice by setting a value. -/
theorem nodup_keys_put {entries : Keyed α} (h : entries.keys.Nodup) (key : String) (value : α) :
    (entries.put key value).keys.Nodup := by
  rw [keys_put]
  split
  · exact h
  · next hnew =>
    refine List.nodup_append.2 ⟨h, by simp, fun other ho last hlast he => ?_⟩
    obtain rfl := List.mem_singleton.1 hlast
    exact hnew (he ▸ ho)

theorem nodup_keys_ofPairs (pairs : List (String × α)) : (ofPairs pairs).keys.Nodup :=
  pairs.foldlRecOn (motive := fun entries => keys entries |>.Nodup) _ List.nodup_nil
    fun _ h pair _ => nodup_keys_put h pair.1 pair.2

theorem keys_without (entries : Keyed α) (key : String) :
    (entries.without key).keys = entries.keys.filter fun other => other ≠ key := by
  rw [keys, keys, without, List.filter_map]
  rfl

theorem filter_put (p : String → Bool) (key : String) (value : α) : ∀ entries : Keyed α,
    (entries.put key value).filter (fun entry => p entry.1) =
      if p key then put (entries.filter fun entry => p entry.1) key value
      else entries.filter fun entry => p entry.1
  | [] => by
    rw [put, List.filter_cons]
    rfl
  | (k, v) :: rest => by
    have ih := filter_put p key value rest
    rw [put]
    by_cases hk : k = key
    · subst hk
      by_cases hp : p k <;> simp [hp, put]
    · rw [if_neg hk, List.filter_cons, List.filter_cons, ih]
      by_cases hp : p key <;> by_cases hpk : p k <;> simp [hp, hpk, hk, put]

theorem map_put (f : α → β) (key : String) (value : α) : ∀ entries : Keyed α,
    (entries.put key value).map (fun entry => (entry.1, f entry.2)) =
      put (entries.map fun entry => (entry.1, f entry.2)) key (f value)
  | [] => rfl
  | (k, v) :: rest => by
    rw [put, List.map_cons, put]
    split
    · rfl
    · rw [List.map_cons, map_put f key value rest]

/-! ## Names given once -/

theorem put_of_not_mem : ∀ {entries : Keyed α} {key : String}, key ∉ entries.keys →
    ∀ value : α, entries.put key value = entries ++ [(key, value)]
  | [], _, _, _ => rfl
  | (k, v) :: rest, key, h, value => by
    have hk : k ≠ key := fun he => h (he ▸ List.mem_cons_self)
    have hrest : key ∉ keys rest := fun hm => h (List.mem_cons_of_mem _ hm)
    rw [put, if_neg hk, put_of_not_mem hrest]
    rfl

theorem foldl_put_append : ∀ {pairs : List (String × α)} {entries : Keyed α},
    (entries ++ pairs).keys.Nodup →
    pairs.foldl (fun entries pair => entries.put pair.1 pair.2) entries = entries ++ pairs
  | [], entries, _ => (List.append_nil entries).symm
  | pair :: pairs, entries, h => by
    have hmem : pair.1 ∉ entries.keys := by
      rw [keys, List.map_append, List.nodup_append] at h
      exact fun hm => h.2.2 _ hm _ List.mem_cons_self rfl
    rw [List.foldl_cons, put_of_not_mem hmem, foldl_put_append (by simpa [keys] using h),
      List.append_assoc]
    rfl

/-- Pairs with distinct names are a keyed list as they stand. -/
theorem ofPairs_of_nodup {pairs : List (String × α)} (h : (keys pairs).Nodup) :
    ofPairs pairs = pairs := by
  rw [ofPairs, foldl_put_append (by simpa using h), List.nil_append]

/-! ## Names given several times -/

theorem last?_append (first second : List (String × α)) (key : String) :
    last? (first ++ second) key = (last? second key).or (last? first key) := by
  rw [last?, List.filter_append, List.getLast?_append, Option.map_or]
  rfl

theorem last?_singleton (pair : String × α) (key : String) :
    last? [pair] key = if pair.1 = key then some pair.2 else none := by
  by_cases h : pair.1 = key <;> simp [last?, h]

theorem last?_cons (pair : String × α) (pairs : List (String × α)) (key : String) :
    last? (pair :: pairs) key =
      (last? pairs key).or (if pair.1 = key then some pair.2 else none) := by
  rw [← List.singleton_append, last?_append, last?_singleton]

/-- Where the name tells the value, every pair with that name has it. -/
theorem last?_map (value : String → α) (key : String) : ∀ names : List String,
    last? (names.map fun name => (name, value name)) key =
      if key ∈ names then some (value key) else none
  | [] => by simp [last?]
  | name :: names => by
    rw [List.map_cons, last?_cons, last?_map value key names]
    by_cases hmem : key ∈ names
    · rw [if_pos hmem, if_pos (List.mem_cons_of_mem _ hmem), Option.some_or]
    · by_cases hname : name = key
      · rw [if_neg hmem, if_pos hname, hname, if_pos List.mem_cons_self, Option.none_or]
      · rw [if_neg hmem, if_neg hname, if_neg, Option.none_or]
        exact fun h => (List.mem_cons.1 h).elim (fun he => hname he.symm) hmem

theorem putAll_append (entries : Keyed α) (first second : List (String × α)) :
    entries.putAll (first ++ second) = (entries.putAll first).putAll second :=
  List.foldl_append

theorem get?_putAll (key : String) : ∀ (pairs : List (String × α)) (entries : Keyed α),
    (entries.putAll pairs).get? key = (last? pairs key).or (entries.get? key)
  | [], _ => rfl
  | pair :: pairs, entries => by
    rw [putAll, List.foldl_cons, ← putAll, get?_putAll key pairs, get?_put, last?_cons,
      Option.or_assoc]
    split <;> rfl

theorem eraseDups_concat (names : List String) (name : String) : (names ++ [name]).eraseDups =
    if name ∈ names.eraseDups then names.eraseDups else names.eraseDups ++ [name] := by
  rw [List.eraseDups_append]
  by_cases hmem : name ∈ names
  · have hgone : [name].removeAll names = [] := by simp [List.removeAll, hmem]
    rw [if_pos (List.mem_eraseDups.2 hmem), hgone]
    exact List.append_nil _
  · have hkept : [name].removeAll names = [name] := by simp [List.removeAll, hmem]
    rw [if_neg (mt List.mem_eraseDups.1 hmem), hkept]
    rfl

/-- A name that was not there yet comes last. -/
theorem keys_putAll : ∀ (pairs : List (String × α)) {entries : Keyed α} {seen : List String},
    entries.keys = seen.eraseDups →
      (entries.putAll pairs).keys = (seen ++ pairs.map Prod.fst).eraseDups
  | [], _, seen, h => by
    rw [List.map_nil, List.append_nil]
    exact h
  | pair :: pairs, entries, seen, h => by
    have hnext : (entries.put pair.1 pair.2).keys = (seen ++ [pair.1]).eraseDups := by
      rw [keys_put, h, eraseDups_concat]
    rw [List.map_cons, List.append_cons]
    exact keys_putAll pairs hnext

theorem filter_putAll (p : String → Bool) : ∀ (pairs : List (String × α)) (entries : Keyed α),
    (entries.putAll pairs).filter (fun entry => p entry.1) =
      putAll (entries.filter fun entry => p entry.1) (pairs.filter fun pair => p pair.1)
  | [], _ => rfl
  | pair :: pairs, entries => by
    have hnext := filter_putAll p pairs (entries.put pair.1 pair.2)
    rw [filter_put] at hnext
    rw [List.filter_cons]
    by_cases hp : p pair.1
    · rw [if_pos hp] at hnext ⊢
      exact hnext
    · rw [if_neg hp] at hnext ⊢
      exact hnext

theorem map_putAll (f : α → β) : ∀ (pairs : List (String × α)) (entries : Keyed α),
    (entries.putAll pairs).map (fun entry => (entry.1, f entry.2)) =
      putAll (entries.map fun entry => (entry.1, f entry.2))
        (pairs.map fun pair => (pair.1, f pair.2))
  | [], _ => rfl
  | pair :: pairs, entries => by
    have hnext := map_putAll f pairs (entries.put pair.1 pair.2)
    rw [map_put] at hnext
    exact hnext

/-- Pairs that are put into an empty keyed list are gathered. -/
theorem gathers_putAll (pairs : List (String × α)) : Gathers pairs (putAll [] pairs) := by
  have hkeys : (putAll [] pairs).keys = ([] ++ pairs.map Prod.fst).eraseDups :=
    keys_putAll pairs rfl
  exact ⟨hkeys, fun key => (get?_putAll key pairs []).trans Option.or_none⟩

end PageCompiler.Keyed
