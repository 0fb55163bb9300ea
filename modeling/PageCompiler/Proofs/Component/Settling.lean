import PageCompiler.Proofs.Component.Lineage

/-!
# The order in which entries are registered

Loading goes through a manifest in rounds, but all that it does is to register the entries one after
the other, in an order in which each entry that extends a name of the manifest stands behind an
entry with that name (`exists_order_of_registry`). Names may be given several times here. What is
registered under a name is then replaced, and a type that extends it has the category that the name
had when the type was registered.

An entry agrees with a registry when it has the category that the registry as it is would give it
(`Entry.AgreesWith`). It does if and only if what it extends has the same category as when it was
registered (`agreesWith_iff`), and so it does if no other entry with the name that it extends is
registered behind it (`agreesWith_of_behind`).
-/

namespace PageCompiler.Component

/-- The category that a registry gives a type by what it extends. -/
inductive Inherits (registry : Registry) : Option String → Category → Prop
  | alone : Inherits registry none .service
  | base : Inherits registry (some visualBase) .visual
  | known {parent : String} {descriptor : Descriptor} (other : parent ≠ visualBase)
      (resolved : registry.resolve parent = some descriptor) :
      Inherits registry (some parent) descriptor.category
  | unknown {parent : String} (other : parent ≠ visualBase)
      (unresolved : registry.resolve parent = none) : Inherits registry (some parent) .service

/-- The registry knows the type of the entry, and in the category that it gives it. -/
def Entry.AgreesWith (entry : Entry) (registry : Registry) : Prop :=
  ∃ descriptor, registry.resolve entry.name = some descriptor ∧
    Inherits registry entry.parent descriptor.category

theorem inherits_categoryBelow (registry : Registry) (parent : Option String) :
    Inherits registry parent (registry.categoryBelow parent) := by
  cases parent with
  | none => exact .alone
  | some parent =>
    rw [Registry.categoryBelow]
    split
    · next hbase => exact hbase ▸ .base
    · next hother =>
      cases hresolved : registry.resolve parent with
      | none => exact .unknown hother hresolved
      | some descriptor => exact .known hother hresolved

theorem inherits_iff {registry : Registry} {parent : Option String} {category : Category} :
    Inherits registry parent category ↔ category = registry.categoryBelow parent := by
  refine ⟨fun h => ?_, fun h => h ▸ inherits_categoryBelow registry parent⟩
  cases h with
  | alone => rfl
  | base => rw [Registry.categoryBelow, if_pos rfl]
  | known hother hresolved => rw [Registry.categoryBelow, if_neg hother, hresolved]
  | unknown hother hunresolved => rw [Registry.categoryBelow, if_neg hother, hunresolved]

namespace Manifest

/-- Register entries one after the other. -/
def settleAll (registry : Registry) (entries : Manifest) : Registry :=
  entries.foldl (fun registry entry => (settle registry entry).1) registry

/-- Registering entries leads from one registry to another, and no entry waits when its turn has
come. -/
inductive Registers (names : List String) : Registry → Manifest → Registry → Prop
  | nil (registry : Registry) : Registers names registry [] registry
  | cons {registry loaded : Registry} {entry : Entry} {order : Manifest}
      (ready : waits names registry entry = false)
      (more : Registers names (settle registry entry).1 order loaded) :
      Registers names registry (entry :: order) loaded

/-! ## One after the other -/

section

variable {names : List String} {registry reached loaded : Registry} {entry : Entry}
  {before after order : Manifest} {name : String}

/-- The type that an entry is registered as. -/
theorem resolve_settle (registry : Registry) (entry : Entry) (name : String) :
    (settle registry entry).1.resolve name =
      if entry.name = name then
        some ⟨entry.name, entry.category.getD (registry.categoryBelow entry.parent), entry.rules⟩
      else registry.resolve name := by
  unfold settle
  cases entry.category with
  | none => exact Keyed.get?_put registry.descriptors entry.name name _
  | some category => exact Keyed.get?_put registry.descriptors entry.name name _

namespace Registers

theorem eq_settleAll (h : Registers names registry order loaded) :
    loaded = settleAll registry order := by
  induction h with
  | nil => rfl
  | cons _ _ ih => exact ih

theorem append (h : Registers names registry before reached)
    (hafter : Registers names reached after loaded) :
    Registers names registry (before ++ after) loaded := by
  induction h with
  | nil => exact hafter
  | cons ready _ ih => exact .cons ready (ih hafter)

/-- The turn of an entry. -/
theorem split : ∀ {before : Manifest} {registry : Registry},
    Registers names registry (before ++ entry :: after) loaded →
      ∃ reached, Registers names registry before reached ∧ waits names reached entry = false ∧
        Registers names (settle reached entry).1 after loaded
  | [], registry, .cons ready more => ⟨registry, .nil registry, ready, more⟩
  | _ :: _, _, .cons ready more =>
    let ⟨reached, hbefore, hturn⟩ := split more
    ⟨reached, .cons ready hbefore, hturn⟩

/-- What no entry has for a name stays as it is. -/
theorem resolve_of_not_mem (h : Registers names registry order loaded)
    (hname : name ∉ order.names) : loaded.resolve name = registry.resolve name := by
  induction h with
  | nil => rfl
  | cons _ _ ih =>
    obtain ⟨hne, hrest⟩ := List.ne_and_not_mem_of_not_mem_cons hname
    rw [ih hrest, resolve_settle, if_neg hne.symm]

/-- From the beginning, what is known is the base type or was registered. -/
theorem mem_of_knows (h : Registers names .base order loaded) (hk : loaded.knows name = true) :
    name ∈ visualBase :: order.names := by
  by_contra hnot
  obtain ⟨hbase, hname⟩ := List.ne_and_not_mem_of_not_mem_cons hnot
  rw [Registry.knows, Keyed.has] at hk
  have hresolve := h.resolve_of_not_mem hname
  rw [Registry.resolve, Registry.resolve, Registry.base, Keyed.get?, if_neg hbase.symm,
    Keyed.get?] at hresolve
  rw [hresolve] at hk
  cases hk

end Registers

/-! ## Rounds -/

/-- A round registers the entries that do not wait. -/
theorem exists_order_of_round (names : List String) : ∀ (entries : Manifest) (registry : Registry),
    ∃ order, (order ++ (round names registry entries).waiting).Perm entries ∧
      Registers names registry order (round names registry entries).registry
  | [], registry => ⟨[], .nil, .nil registry⟩
  | entry :: rest, registry => by
    unfold round
    cases hready : waits names registry entry with
    | true =>
      obtain ⟨order, hperm, horder⟩ := exists_order_of_round names rest registry
      exact ⟨order, List.perm_middle.trans (hperm.cons entry), horder⟩
    | false =>
      obtain ⟨order, hperm, horder⟩ :=
        exists_order_of_round names rest (settle registry entry).1
      exact ⟨entry :: order, hperm.cons entry, .cons hready horder⟩

theorem exists_order_of_rounds (registry : Registry) (pending : Manifest)
    (h : (rounds names registry pending).1 = .ok loaded) :
    ∃ order, order.Perm pending ∧ Registers names registry order loaded := by
  unfold rounds at h
  split at h
  · next hnil =>
    obtain rfl := List.isEmpty_iff.1 hnil
    obtain rfl := Except.ok.inj h
    exact ⟨[], .nil, .nil registry⟩
  · dsimp only at h
    split at h
    · obtain ⟨first, hperm, hfirst⟩ := exists_order_of_round names pending registry
      obtain ⟨later, hwaiting, hlater⟩ := exists_order_of_rounds _ _ h
      exact ⟨first ++ later, (hwaiting.append_left first).trans hperm, hfirst.append hlater⟩
    · cases h
termination_by pending.length

/-- Loading registers the entries of a manifest in some order. -/
theorem exists_order_of_registry {manifest : Manifest} (h : manifest.registry.1 = .ok loaded) :
    ∃ order, order.Perm manifest ∧ Registers manifest.names .base order loaded :=
  exists_order_of_rounds .base manifest h

/-! ## The turn of an entry -/

theorem count_names {manifest : Manifest} (hperm : (before ++ entry :: after).Perm manifest)
    (name : String) : manifest.names.count name =
      before.names.count name + (entry.name :: after.names).count name := by
  rw [Manifest.names, ← (hperm.map Entry.name).count_eq name, List.map_append, List.count_append]
  rfl

/-- An entry whose name is given once is the only one with that name, whatever the order. -/
theorem not_mem_of_count {manifest : Manifest} (hperm : (before ++ entry :: after).Perm manifest)
    (honce : manifest.names.count entry.name = 1) :
    entry.name ∉ before.names ∧ entry.name ∉ after.names := by
  have hcount := count_names hperm entry.name
  rw [honce, List.count_cons_self] at hcount
  constructor <;> refine List.count_eq_zero.1 ?_ <;> omega

/-- A name that is given once does not come behind when it has come before. -/
theorem not_mem_after_of_count {manifest : Manifest}
    (hperm : (before ++ entry :: after).Perm manifest) (honce : manifest.names.count name ≤ 1)
    (hbefore : name ∈ before.names) : name ∉ after.names := by
  intro hafter
  have hcount := count_names hperm name
  have hfirst := List.count_pos_iff.2 hbefore
  have hsecond := List.count_pos_iff.2 (List.mem_cons_of_mem entry.name hafter)
  omega

/-- What an entry extends, if it is a name of the manifest, is there when the turn of the entry has
come. -/
theorem mem_names_of_ready (h : Registers names .base before reached)
    (hready : waits names reached entry = false) (hown : entry.category = none)
    (hname : name ∈ names) (hparent : entry.parent = some name) :
    name ∈ visualBase :: before.names := by
  refine h.mem_of_knows ?_
  by_contra hunknown
  have hwaits := waits_iff.2 ⟨hown, name, hname, hparent, Bool.eq_false_iff.2 hunknown⟩
  exact Bool.false_ne_true (hready.symm.trans hwaits)

/-- An entry whose name is not registered again has the category that its parent gave it when its
turn had come. -/
theorem resolve_of_turn (hafter : Registers names (settle reached entry).1 after loaded)
    (hown : entry.category = none) (hname : entry.name ∉ after.names) :
    loaded.resolve entry.name =
      some ⟨entry.name, reached.categoryBelow entry.parent, entry.rules⟩ := by
  rw [hafter.resolve_of_not_mem hname, resolve_settle, if_pos rfl, hown]
  rfl

/-- An entry agrees with a registry if what it extends has the category that it had when the turn of
the entry had come. -/
theorem agreesWith_iff (hafter : Registers names (settle reached entry).1 after loaded)
    (hown : entry.category = none) (hname : entry.name ∉ after.names) :
    entry.AgreesWith loaded ↔
      ∀ category, Inherits reached entry.parent category → Inherits loaded entry.parent category := by
  have hresolve := resolve_of_turn hafter hown hname
  constructor
  · rintro ⟨descriptor, hfound, hinherits⟩ category hcategory
    obtain rfl := Option.some.inj (hresolve.symm.trans hfound)
    exact inherits_iff.1 hcategory ▸ hinherits
  · exact fun hkept => ⟨_, hresolve, hkept _ (inherits_categoryBelow reached entry.parent)⟩

/-- An entry agrees with a registry if no other with the name that it extends is registered
behind it. -/
theorem agreesWith_of_behind (hbefore : Registers names .base before reached)
    (hready : waits names reached entry = false)
    (hafter : Registers names (settle reached entry).1 after loaded)
    (hown : entry.category = none) (hmem : entry.name ∈ names)
    (hname : entry.name ∉ before.names ∧ entry.name ∉ after.names)
    (hbehind : ∀ other ∈ after, entry.parent = some other.name → other.name = visualBase) :
    entry.AgreesWith loaded := by
  refine (agreesWith_iff hafter hown hname.2).2 fun category hcategory => ?_
  rw [inherits_iff] at hcategory ⊢
  rw [hcategory]
  cases hparent : entry.parent with
  | none => rfl
  | some parent =>
    rw [Registry.categoryBelow, Registry.categoryBelow]
    by_cases hbase : parent = visualBase
    · rw [if_pos hbase, if_pos hbase]
    have hlater : parent ∉ after.names := by
      intro hin
      obtain ⟨other, hother, rfl⟩ := List.mem_map.1 hin
      exact hbase (hbehind other hother hparent)
    -- An entry that extends itself would have waited.
    have hself : entry.name ≠ parent := by
      rintro rfl
      have hearlier := mem_names_of_ready hbefore hready hown hmem hparent
      exact hname.1 ((List.mem_cons.1 hearlier).resolve_left hbase)
    rw [if_neg hbase, if_neg hbase, hafter.resolve_of_not_mem hlater, resolve_settle,
      if_neg hself]

end

end Manifest

end PageCompiler.Component
