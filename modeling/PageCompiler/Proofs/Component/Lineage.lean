import PageCompiler.Proofs.Component.Chains

/-!
# Types registered one by one

Registering an entry by what it extends looks at one type only, the one that it extends, as the
registry has it at that moment (`grown`). As long as no name is registered twice, what a type got
then is what it has at any later time (`resolve_grown`), so looking at it goes on where its own
registration left off (`categoryBelow_grown`). So a type is visual when a way leads back from it to
the base type, on which each type was registered before the one that extends it
(`returned_isVisual_iff`). That is less than a chain through all that was registered before : a type
may have been registered before one that it extends, and is a service then.

Where no type is registered before one that it extends, the way is the chain
(`leadsBack_iff_ends`). Registering a whole manifest in such an order settles what loading it settles
in rounds (`loading_grown`).
-/

namespace PageCompiler.Component

/-- Make the type of an entry known by what the entry extends. -/
def Registry.extend (registry : Registry) (entry : Entry) : Registry :=
  registry.registerBelow entry.name entry.parent entry.rules

namespace Manifest

/-- The registry that grows from the base type as entries are registered by what they extend, one
after the other. -/
def grown (entries : Manifest) : Registry :=
  entries.foldl Registry.extend .base

/-- The descriptor of an entry that is registered after others. -/
def returned (before : Manifest) (entry : Entry) : Descriptor :=
  before.grown.descriptorBelow entry.name entry.parent entry.rules

/-- From an entry a way leads back to the base type, when these are registered before it : each type
on it was registered before the one that extends it. -/
inductive LeadsBack : Manifest → Entry → Prop
  | base {before : Manifest} {entry : Entry} (extended : entry.parent = some visualBase) :
      LeadsBack before entry
  | next {before between : Manifest} {entry parent : Entry}
      (extended : entry.parent = some parent.name) (more : LeadsBack before parent) :
      LeadsBack (before ++ parent :: between) entry

/-- No entry stands before one that it extends. -/
def NoneEarly (entries : Manifest) : Prop :=
  entries.Pairwise fun entry later => entry.parent ≠ some later.name

/-- Each entry that extends one of the entries stands behind that. -/
structure ParentsFirst (entries : Manifest) : Prop where
  noneEarly : entries.NoneEarly
  not_self : ∀ entry ∈ entries, entry.parent ≠ some entry.name

instance (entries : Manifest) : Decidable entries.NoneEarly :=
  inferInstanceAs (Decidable (entries.Pairwise fun entry later => entry.parent ≠ some later.name))

/-! ## The registry as it grows -/

section

variable {before between : Manifest} {entry parent : Entry}

theorem resolve_extend (registry : Registry) (entry : Entry) (name : String) :
    (registry.extend entry).resolve name =
      if entry.name = name then
        some (registry.descriptorBelow entry.name entry.parent entry.rules)
      else registry.resolve name :=
  Keyed.get?_put registry.descriptors entry.name name _

/-- A type stays as it is when others are registered. -/
theorem resolve_foldl_extend {name : String} : ∀ {entries : Manifest} (registry : Registry),
    name ∉ entries.names → (entries.foldl Registry.extend registry).resolve name =
      registry.resolve name
  | [], _, _ => rfl
  | entry :: rest, registry, h => by
    obtain ⟨hne, hrest⟩ := List.ne_and_not_mem_of_not_mem_cons h
    rw [List.foldl_cons, resolve_foldl_extend _ hrest, resolve_extend, if_neg hne.symm]

/-- A type is what it was made when it was registered, as long as its name is not registered
again. -/
theorem resolve_grown (before : Manifest) (entry : Entry) {later : Manifest}
    (h : entry.name ∉ later.names) :
    (grown (before ++ entry :: later)).resolve entry.name = some (before.returned entry) := by
  rw [grown, List.foldl_append, List.foldl_cons, resolve_foldl_extend _ h, resolve_extend,
    if_pos rfl]
  rfl

theorem resolve_grown_eq_none {entries : Manifest} {name : String} (h : name ∉ entries.names)
    (hb : name ≠ visualBase) : entries.grown.resolve name = none := by
  rw [grown, resolve_foldl_extend _ h, Registry.resolve, Registry.base, Keyed.get?,
    if_neg hb.symm, Keyed.get?]

/-- An entry does not give its name to one that is registered later. -/
theorem not_mem_names_of_append {later : Manifest}
    (hn : (names (before ++ entry :: later)).Nodup) : entry.name ∉ later.names := by
  rw [names, List.map_append, List.map_cons] at hn
  exact (List.nodup_cons.1 hn.of_append_right).1

/-- What was registered first has distinct names, too, if all that is registered has. -/
theorem nodup_names_of_append {later : Manifest}
    (hn : (visualBase :: names (before ++ later)).Nodup) : (visualBase :: before.names).Nodup :=
  hn.sublist (((List.sublist_append_left before later).map Entry.name).cons_cons visualBase)

/-- Looking at the type that an entry extends goes on where the registration of that type left
off. -/
theorem categoryBelow_grown (hn : (visualBase :: names (before ++ parent :: between)).Nodup)
    (hextended : entry.parent = some parent.name) :
    (grown (before ++ parent :: between)).categoryBelow entry.parent =
      before.grown.categoryBelow parent.parent := by
  obtain ⟨hb, hnames⟩ := List.nodup_cons.1 hn
  have hbase : parent.name ≠ visualBase := fun he =>
    hb (he ▸ mem_names (List.mem_append_right before List.mem_cons_self))
  rw [hextended, Registry.categoryBelow, if_neg hbase,
    resolve_grown before parent (not_mem_names_of_append hnames)]
  rfl

/-! ## Ways back -/

theorem LeadsBack.categoryBelow (h : LeadsBack before entry)
    (hn : (visualBase :: before.names).Nodup) :
    before.grown.categoryBelow entry.parent = .visual := by
  induction h with
  | base extended => rw [extended, Registry.categoryBelow, if_pos rfl]
  | next extended _ ih =>
    rw [categoryBelow_grown hn extended]
    exact ih (nodup_names_of_append hn)

/-- What a type extends was registered after fewer types, so the way back comes to an end. -/
theorem leadsBack_of_categoryBelow (before : Manifest) (entry : Entry)
    (hn : (visualBase :: before.names).Nodup)
    (hvisual : before.grown.categoryBelow entry.parent = .visual) : LeadsBack before entry := by
  cases hp : entry.parent with
  | none =>
    rw [hp] at hvisual
    cases hvisual
  | some name =>
    by_cases hbase : name = visualBase
    · exact .base (hp.trans (congrArg some hbase))
    by_cases hmem : name ∈ before.names
    · obtain ⟨parent, hparent, rfl⟩ := List.mem_map.1 hmem
      obtain ⟨earlier, between, rfl⟩ := List.append_of_mem hparent
      rw [categoryBelow_grown hn hp] at hvisual
      exact .next hp (leadsBack_of_categoryBelow earlier parent (nodup_names_of_append hn) hvisual)
    · rw [hp, Registry.categoryBelow, if_neg hbase, resolve_grown_eq_none hmem hbase] at hvisual
      cases hvisual
termination_by before.length

/-- The descriptor of an entry is visual if and only if a way leads back to the base type. -/
theorem returned_isVisual_iff (hn : (visualBase :: before.names).Nodup) :
    (before.returned entry).isVisual = true ↔ LeadsBack before entry := by
  rw [Descriptor.isVisual, decide_eq_true_iff]
  exact ⟨leadsBack_of_categoryBelow before entry hn, fun h => h.categoryBelow hn⟩

/-! ## Chains -/

/-- A chain that ends in the base type is one among more entries, too. -/
theorem Ends.append_right (h : before.Ends entry .visual) (later : Manifest) :
    Ends (before ++ later) entry .visual := by
  generalize hcategory : Category.visual = category at h
  induction h with
  | named own => exact .named own
  | alone => cases hcategory
  | base own extended => exact .base own extended
  | foreign => cases hcategory
  | next own defined extended _ ih =>
    exact .next own (List.mem_append_left later defined) extended (ih hcategory)

theorem LeadsBack.ends (h : LeadsBack before entry) (hown : ∀ other ∈ before, other.category = none)
    (he : entry.category = none) : before.Ends entry .visual := by
  induction h with
  | base extended => exact .base he extended
  | @next before between entry parent extended _ ih =>
    obtain ⟨hbefore, hparent⟩ := List.forall_mem_append.1 hown
    have hmore := ih hbefore (List.forall_mem_cons.1 hparent).1
    exact .next he (List.mem_append_right _ List.mem_cons_self) extended
      (hmore.append_right (parent :: between))

/-- Where no entry stands before one that it extends, the chain of each entry goes on among those
before it. -/
theorem leadsBack_of_ends {known : Manifest} (hown : ∀ other ∈ known, other.category = none)
    (hearly : known.NoneEarly) {entry : Entry} (h : known.Ends entry .visual) :
    ∀ {before later : Manifest}, known = before ++ entry :: later → LeadsBack before entry := by
  generalize hcategory : Category.visual = category at h
  induction h with
  | named own =>
    rintro before later rfl
    rw [hown _ (List.mem_append_right _ List.mem_cons_self)] at own
    cases own
  | alone => cases hcategory
  | base _ extended => exact fun _ => .base extended
  | foreign => cases hcategory
  | @next entry parent _ own defined extended _ ih =>
    rintro before later rfl
    rcases List.mem_append.1 defined with hbefore | hafter
    · obtain ⟨earlier, between, rfl⟩ := List.append_of_mem hbefore
      exact .next extended (ih hcategory (by rw [List.append_assoc, List.cons_append]))
    rcases List.mem_cons.1 hafter with rfl | hlater
    · exact ih hcategory rfl
    · have hbehind := (List.pairwise_cons.1 (List.pairwise_append.1 hearly).2.1).1
      exact absurd extended (hbehind parent hlater)

/-- Where no type was registered before one that it extends, the way back is the chain through all
types that were registered. -/
theorem leadsBack_iff_ends (hown : ∀ other ∈ before, other.category = none)
    (he : entry.category = none) (hearly : before.NoneEarly) :
    LeadsBack before entry ↔ before.Ends entry .visual := by
  refine ⟨fun h => h.ends hown he, fun h => ?_⟩
  cases h with
  | named own =>
    rw [he] at own
    cases own
  | base _ extended => exact .base extended
  | next _ defined extended ends =>
    obtain ⟨earlier, between, rfl⟩ := List.append_of_mem defined
    exact .next extended (leadsBack_of_ends hown hearly ends rfl)

/-! ## Whole manifests -/

/-- Registering entries behind those that they extend does what the rounds of loading do. -/
theorem loading_foldl_extend {manifest : Manifest} (hn : (visualBase :: manifest.names).Nodup) :
    ∀ (entries : Manifest) {registry : Registry}, (∀ entry ∈ entries, entry ∈ manifest) →
      (∀ entry ∈ entries, entry.category = none) → entries.ParentsFirst →
      Loading manifest registry entries.names →
        Loading manifest (entries.foldl Registry.extend registry) []
  | [], _, _, _, _, h => h
  | entry :: rest, registry, hmem, hown, hfirst, h => by
    obtain ⟨hentry, hrest⟩ := List.forall_mem_cons.1 hmem
    obtain ⟨hnone, hnones⟩ := List.forall_mem_cons.1 hown
    obtain ⟨hbehind, hearly⟩ := List.pairwise_cons.1 hfirst.noneEarly
    obtain ⟨hself, hselves⟩ := List.forall_mem_cons.1 hfirst.not_self
    -- what the entry extends is not among those that are still to be registered
    have hready : waits manifest.names registry entry = false := by
      rw [← Bool.not_eq_true, waits_iff]
      rintro ⟨-, name, hname, hparent, hunknown⟩
      rcases List.mem_cons.1 (h.mem_pending hname hunknown) with rfl | hlater
      · exact hself hparent
      · obtain ⟨later, hmem, rfl⟩ := List.mem_map.1 hlater
        exact hbehind later hmem hparent
    have hsettled := h.settle hn hentry hready
    rw [settle, hnone] at hsettled
    exact loading_foldl_extend hn rest hrest hnones ⟨hearly, hselves⟩ hsettled

theorem loading_grown {manifest order : Manifest} (hn : (visualBase :: manifest.names).Nodup)
    (hown : ∀ entry ∈ order, entry.category = none) (hperm : order.Perm manifest)
    (hfirst : order.ParentsFirst) : Loading manifest order.grown [] := by
  have hstart : Loading manifest .base order.names :=
    { Loading.start manifest with names_perm := (hperm.map Entry.name).cons visualBase }
  exact loading_foldl_extend hn order (fun _ => hperm.mem_iff.1) hown hfirst hstart

/-- A manifest whose entries can be put behind those that they extend has no chain that never
ends. -/
theorem endlessNames_eq_nil {manifest order : Manifest}
    (hn : (visualBase :: manifest.names).Nodup)
    (hown : ∀ entry ∈ order, entry.category = none) (hperm : order.Perm manifest)
    (hfirst : order.ParentsFirst) : manifest.endlessNames = [] := by
  by_contra hne
  obtain ⟨entry, hmem, hendless⟩ := endlessNames_ne_nil.1 hne
  have hloading := loading_grown hn hown hperm hfirst
  have hstuck : entry ∈ [] ↔ manifest.Endless entry :=
    hloading.mem_iff_endless hn (List.nil_sublist manifest)
      (fun _ hnil => absurd hnil List.not_mem_nil) hmem
  exact absurd (hstuck.2 hendless) List.not_mem_nil

end

end Manifest

end PageCompiler.Component
