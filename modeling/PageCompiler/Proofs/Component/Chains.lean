import Mathlib.Data.List.Nodup
import Mathlib.Data.List.Perm.Subperm
import Mathlib.Tactic.Choose
import PageCompiler.Proofs.Component.Registry
import PageCompiler.Proofs.Keyed

/-!
# Chains of types

An entry of a manifest that names no category starts a chain : the entry it extends, the one that
this extends, and so on, as long as no category is named. A chain may end (`Ends`), and then its end
decides the category of every entry on it, or go on forever (`Endless`). No entry does both
(`Ends.not_endless`), and the order of the file has no part in either.

Loading goes through the entries in rounds, but settles what the chains say (`registry_cases`). The
invariant is that the names of the registered types and those of the entries that still wait are
together the names of the manifest and of the base type, and that a registered type is as its chain
says (`Loading`). A round that settles nothing leaves entries of which each extends another, so none
of their chains ends.
-/

namespace PageCompiler.Component

open Keyed

namespace Manifest

/-- The category in which the chain of an entry ends. -/
inductive Ends (manifest : Manifest) : Entry → Category → Prop
  | named {entry : Entry} {category : Category} (own : entry.category = some category) :
      Ends manifest entry category
  | alone {entry : Entry} (own : entry.category = none) (extended : entry.parent = none) :
      Ends manifest entry .service
  | base {entry : Entry} (own : entry.category = none)
      (extended : entry.parent = some visualBase) : Ends manifest entry .visual
  | foreign {entry : Entry} {parent : String} (own : entry.category = none)
      (extended : entry.parent = some parent) (other : parent ≠ visualBase)
      (undefined : parent ∉ manifest.names) : Ends manifest entry .service
  | next {entry parent : Entry} {category : Category} (own : entry.category = none)
      (defined : parent ∈ manifest) (extended : entry.parent = some parent.name)
      (ends : Ends manifest parent category) : Ends manifest entry category

/-- The chain of an entry goes on forever : no entry on it names a category, and each extends the
next. -/
def Endless (manifest : Manifest) (entry : Entry) : Prop :=
  ∃ chain : Nat → Entry, chain 0 = entry ∧ ∀ n, chain n ∈ manifest ∧
    (chain n).category = none ∧ (chain n).parent = some (chain (n + 1)).name

/-- The types that a manifest describes, by name : the base type, and for each entry a type with its
rules and the category in which its chain ends. -/
inductive Describes (manifest : Manifest) : String → Descriptor → Prop
  | base : Describes manifest visualBase ⟨visualBase, .visual, []⟩
  | entry {entry : Entry} {category : Category} (defined : entry ∈ manifest)
      (ends : Ends manifest entry category) :
      Describes manifest entry.name ⟨entry.name, category, entry.rules⟩

open Classical in
/-- The names of the entries whose chains never end, in the order of the file. -/
noncomputable def endlessNames (manifest : Manifest) : List String :=
  (manifest.filter fun entry => manifest.Endless entry).map Entry.name

/-! ## What chains say -/

section

variable {manifest : Manifest}

theorem mem_names {entry : Entry} (h : entry ∈ manifest) : entry.name ∈ manifest.names :=
  List.mem_map_of_mem h

/-- What an entry extends is a name of the manifest if it is the name of an entry. -/
theorem mem_names_of_parent {entry parent : Entry} {name : String} (h : parent ∈ manifest)
    (hparent : entry.parent = some parent.name) (hname : entry.parent = some name) :
    name ∈ manifest.names := by
  obtain rfl := Option.some.inj (hparent.symm.trans hname)
  exact mem_names h

/-- Names tell entries apart. -/
theorem eq_of_name_eq (hn : manifest.names.Nodup) {entry other : Entry} (h : entry ∈ manifest)
    (ho : other ∈ manifest) (hname : entry.name = other.name) : entry = other :=
  List.inj_on_of_nodup_map hn h ho hname

theorem Endless.mem {entry : Entry} (h : manifest.Endless entry) : entry ∈ manifest := by
  obtain ⟨chain, rfl, hchain⟩ := h
  exact (hchain 0).1

/-- A chain that never ends goes on with an entry of the manifest whose chain never ends. -/
theorem Endless.next {entry : Entry} (h : manifest.Endless entry) :
    entry.category = none ∧ ∃ parent, manifest.Endless parent ∧
      entry.parent = some parent.name := by
  obtain ⟨chain, rfl, hchain⟩ := h
  exact ⟨(hchain 0).2.1, chain 1, ⟨fun n => chain (n + 1), rfl, fun n => hchain (n + 1)⟩,
    (hchain 0).2.2⟩

/-- Entries of which each extends another one of them start chains that never end. -/
theorem endless_of_closed {entries : List Entry} (hsub : entries ⊆ manifest)
    (hnext : ∀ entry ∈ entries, entry.category = none ∧
      ∃ parent ∈ entries, entry.parent = some parent.name) :
    ∀ entry ∈ entries, manifest.Endless entry := by
  choose own next hmem hparent using hnext
  intro entry hentry
  let chain : Nat → { entry // entry ∈ entries } := fun n =>
    n.rec ⟨entry, hentry⟩ fun _ current => ⟨next current.1 current.2, hmem current.1 current.2⟩
  exact ⟨fun n => (chain n).1, rfl, fun n =>
    ⟨hsub (chain n).2, own _ (chain n).2, hparent _ (chain n).2⟩⟩

/-- A chain that ends does not go on forever. -/
theorem Ends.not_endless (hn : manifest.names.Nodup) (hb : visualBase ∉ manifest.names)
    {entry : Entry} {category : Category} (h : Ends manifest entry category) :
    ¬manifest.Endless entry := by
  induction h with
  | named own =>
    intro hendless
    rw [hendless.next.1] at own
    cases own
  | alone own extended =>
    intro hendless
    obtain ⟨-, parent, -, hparent⟩ := hendless.next
    rw [extended] at hparent
    cases hparent
  | base own extended =>
    intro hendless
    obtain ⟨-, parent, hnext, hparent⟩ := hendless.next
    exact hb (mem_names_of_parent hnext.mem hparent extended)
  | foreign own extended other undefined =>
    intro hendless
    obtain ⟨-, parent, hnext, hparent⟩ := hendless.next
    exact undefined (mem_names_of_parent hnext.mem hparent extended)
  | next own defined extended _ ih =>
    intro hendless
    obtain ⟨-, parent, hnext, hparent⟩ := hendless.next
    rw [extended] at hparent
    obtain rfl := eq_of_name_eq hn defined hnext.mem (Option.some.inj hparent)
    exact ih hnext

/-- A chain ends in one category. -/
theorem Ends.unique (hn : manifest.names.Nodup) (hb : visualBase ∉ manifest.names) {entry : Entry}
    {category other : Category} (h : Ends manifest entry category)
    (h' : Ends manifest entry other) : category = other := by
  induction h with
  | named own => cases h' <;> simp_all
  | alone own extended => cases h' <;> simp_all
  | base own extended =>
    cases h' with
    | next own' defined extended' ends =>
      exact absurd (mem_names_of_parent defined extended' extended) hb
    | _ => simp_all
  | foreign own extended _ undefined =>
    cases h' with
    | next own' defined extended' ends =>
      exact absurd (mem_names_of_parent defined extended' extended) undefined
    | _ => simp_all
  | next own defined extended _ ih =>
    cases h' with
    | named own' => simp_all
    | alone own' extended' => simp_all
    | base own' extended' => exact absurd (mem_names_of_parent defined extended extended') hb
    | foreign own' extended' other undefined =>
      exact absurd (mem_names_of_parent defined extended extended') undefined
    | next own' defined' extended' ends =>
      rw [extended] at extended'
      obtain rfl := eq_of_name_eq hn defined defined' (Option.some.inj extended')
      exact ih ends

/-- A manifest describes one type under a name. -/
theorem Describes.unique (hn : manifest.names.Nodup) (hb : visualBase ∉ manifest.names)
    {name : String} {descriptor other : Descriptor} (h : Describes manifest name descriptor)
    (h' : Describes manifest name other) : descriptor = other := by
  cases h with
  | base =>
    generalize hname : visualBase = name at h'
    cases h' with
    | base => rfl
    | entry defined _ => exact absurd (hname ▸ mem_names defined) hb
  | @entry entry category defined ends =>
    generalize hname : entry.name = name at h'
    cases h' with
    | base => exact absurd (hname ▸ mem_names defined) hb
    | entry defined' ends' =>
      obtain rfl := eq_of_name_eq hn defined defined' hname
      rw [ends.unique hn hb ends']

/-! ## The order of the file -/

theorem Ends.of_perm {other : Manifest} (hp : manifest.Perm other) {entry : Entry}
    {category : Category} (h : Ends manifest entry category) : Ends other entry category := by
  induction h with
  | named own => exact .named own
  | alone own extended => exact .alone own extended
  | base own extended => exact .base own extended
  | foreign own extended hne undefined =>
    exact .foreign own extended hne fun hmem => undefined ((hp.map Entry.name).mem_iff.2 hmem)
  | next own defined extended _ ih => exact .next own (hp.mem_iff.1 defined) extended ih

theorem Describes.of_perm {other : Manifest} (hp : manifest.Perm other) {name : String}
    {descriptor : Descriptor} (h : Describes manifest name descriptor) :
    Describes other name descriptor := by
  cases h with
  | base => exact .base
  | entry defined ends => exact .entry (hp.mem_iff.1 defined) (ends.of_perm hp)

theorem Endless.of_perm {other : Manifest} (hp : manifest.Perm other) {entry : Entry}
    (h : manifest.Endless entry) : other.Endless entry := by
  obtain ⟨chain, hstart, hchain⟩ := h
  exact ⟨chain, hstart, fun n => ⟨hp.mem_iff.1 (hchain n).1, (hchain n).2⟩⟩

theorem endlessNames_ne_nil :
    manifest.endlessNames ≠ [] ↔ ∃ entry ∈ manifest, manifest.Endless entry := by
  classical
  rw [endlessNames, Ne, List.map_eq_nil_iff, List.filter_eq_nil_iff]
  simp

theorem endlessNames_perm {other : Manifest} (hp : manifest.Perm other) :
    manifest.endlessNames.Perm other.endlessNames := by
  classical
  have hsame : (fun entry => decide (manifest.Endless entry)) =
      fun entry => decide (other.Endless entry) := by
    funext entry
    exact decide_eq_decide.2 ⟨Endless.of_perm hp, Endless.of_perm hp.symm⟩
  unfold endlessNames
  rw [← hsame]
  exact (hp.filter _).map Entry.name

end

/-! ## Rounds -/

/-- An entry waits for what it extends. -/
theorem waits_iff {names : List String} {registry : Registry} {entry : Entry} :
    waits names registry entry = true ↔ entry.category = none ∧
      ∃ parent ∈ names, entry.parent = some parent ∧ registry.knows parent = false := by
  unfold waits
  split
  · next parent own extended => simp [own, extended]
  · next hneither =>
    refine ⟨fun h => absurd h Bool.false_ne_true, fun ⟨own, parent, _, extended, _⟩ => ?_⟩
    exact absurd extended (hneither parent own)

/-- What is true while a manifest is loaded, with the names of the entries that are still to be
registered. -/
structure Loading (manifest : Manifest) (registry : Registry) (pending : List String) : Prop where
  names_perm : (registry.descriptors.keys ++ pending).Perm (visualBase :: manifest.names)
  describes : ∀ {name descriptor}, registry.resolve name = some descriptor →
    Describes manifest name descriptor

section

variable {manifest : Manifest} {registry : Registry}

theorem Loading.start (manifest : Manifest) : Loading manifest .base manifest.names where
  names_perm := .refl _
  describes {name descriptor} h := by
    rw [Registry.resolve, Registry.base, get?] at h
    split at h
    · next hname =>
      obtain rfl := Option.some.inj h
      exact hname ▸ .base
    · cases h

/-- A name that is still to be registered is not known. -/
theorem Loading.not_mem_keys (hn : (visualBase :: manifest.names).Nodup) {pending : List String}
    (h : Loading manifest registry pending) {name : String} (hmem : name ∈ pending) :
    name ∉ registry.descriptors.keys := by
  have hnodup := List.nodup_append.1 (h.names_perm.nodup_iff.2 hn)
  exact fun hkey => hnodup.2.2 name hkey name hmem rfl

/-- A name of the manifest that is not known is still to be registered. -/
theorem Loading.mem_pending {pending : List String} (h : Loading manifest registry pending)
    {name : String} (hmem : name ∈ manifest.names) (hk : registry.knows name = false) :
    name ∈ pending := by
  have hall := h.names_perm.mem_iff.2 (List.mem_cons_of_mem visualBase hmem)
  refine (List.mem_append.1 hall).resolve_left fun hkey => ?_
  obtain ⟨descriptor, hget⟩ := exists_get?_of_mem_keys hkey
  rw [Registry.knows, has, hget] at hk
  cases hk

/-- The chain of an entry that does not wait ends in the category of the type it extends. -/
theorem Loading.ends_categoryBelow {pending : List String}
    (h : Loading manifest registry pending) {entry : Entry} (own : entry.category = none)
    (hw : waits manifest.names registry entry = false) :
    Ends manifest entry (registry.categoryBelow entry.parent) := by
  cases hp : entry.parent with
  | none => exact .alone own hp
  | some parent =>
    rw [Registry.categoryBelow]
    split
    · next hbase => exact .base own (hp.trans (congrArg some hbase))
    · next hbase =>
      cases hr : registry.resolve parent with
      | none =>
        have hunknown : registry.knows parent = false := congrArg Option.isSome hr
        refine .foreign own hp hbase fun hmem => ?_
        exact Bool.false_ne_true (hw.symm.trans (waits_iff.2 ⟨own, parent, hmem, hp, hunknown⟩))
      | some descriptor =>
        cases h.describes hr with
        | base => exact absurd rfl hbase
        | entry defined ends => exact .next own defined hp ends

/-- Registering an entry whose chain ends takes its name off those that wait. -/
theorem Loading.register (hn : (visualBase :: manifest.names).Nodup) {entry : Entry}
    {category : Category} {pending : List String}
    (h : Loading manifest registry (entry.name :: pending)) (hmem : entry ∈ manifest)
    (ends : Ends manifest entry category) :
    Loading manifest (registry.register ⟨entry.name, category, entry.rules⟩) pending where
  names_perm := by
    have hnew := h.not_mem_keys hn List.mem_cons_self
    rw [Registry.register, keys_put, if_neg hnew, List.append_assoc]
    exact h.names_perm
  describes {name descriptor} hr := by
    rw [Registry.resolve, Registry.register, get?_put] at hr
    split at hr
    · next hname =>
      obtain rfl := Option.some.inj hr
      exact hname ▸ .entry hmem ends
    · exact h.describes hr

theorem Loading.settle (hn : (visualBase :: manifest.names).Nodup) {entry : Entry}
    {pending : List String} (h : Loading manifest registry (entry.name :: pending))
    (hmem : entry ∈ manifest) (hw : waits manifest.names registry entry = false) :
    Loading manifest (Manifest.settle registry entry).1 pending := by
  unfold Manifest.settle
  cases own : entry.category with
  | some category => exact h.register hn hmem (.named own)
  | none => exact h.register hn hmem (h.ends_categoryBelow own hw)

/-- A round keeps the invariant. -/
theorem loading_round (hn : (visualBase :: manifest.names).Nodup) :
    ∀ (entries : List Entry) {registry : Registry} (others : List String),
      (∀ entry ∈ entries, entry ∈ manifest) →
      Loading manifest registry (others ++ entries.map Entry.name) →
        Loading manifest (round manifest.names registry entries).registry
          (others ++ (round manifest.names registry entries).waiting.map Entry.name)
  | [], _, _, _, h => h
  | entry :: rest, registry, others, hmem, h => by
    have hrest : ∀ other ∈ rest, other ∈ manifest := fun other ho =>
      hmem other (List.mem_cons_of_mem _ ho)
    unfold round
    split
    · have hlater := loading_round hn rest (others ++ [entry.name]) hrest
        (by rwa [List.append_assoc])
      rwa [List.append_assoc] at hlater
    · next hw =>
      have hfirst : Loading manifest registry (entry.name :: (others ++ rest.map Entry.name)) :=
        { h with names_perm := (List.perm_middle.symm.append_left _).trans h.names_perm }
      exact loading_round hn rest others hrest
        (hfirst.settle hn (hmem entry List.mem_cons_self) (by simpa using hw))

theorem waiting_sublist (names : List String) : ∀ (entries : List Entry) (registry : Registry),
    (round names registry entries).waiting.Sublist entries
  | [], _ => .slnil
  | entry :: rest, registry => by
    unfold round
    split
    · exact (waiting_sublist names rest registry).cons_cons entry
    · exact (waiting_sublist names rest _).cons entry

/-- A round in which all entries wait leaves the registry as it is. -/
theorem round_of_waiting (names : List String) : ∀ (entries : List Entry) (registry : Registry),
    entries.length ≤ (round names registry entries).waiting.length →
      (round names registry entries).registry = registry ∧
        (round names registry entries).waiting = entries ∧
          ∀ entry ∈ entries, waits names registry entry = true
  | [], _, _ => ⟨rfl, rfl, fun _ hmem => absurd hmem List.not_mem_nil⟩
  | entry :: rest, registry, h => by
    unfold round at h ⊢
    split at h
    · next hw =>
      rw [if_pos hw]
      obtain ⟨hsame, hall, hwaits⟩ :=
        round_of_waiting names rest registry (Nat.le_of_succ_le_succ h)
      exact ⟨hsame, congrArg _ hall, List.forall_mem_cons.2 ⟨hw, hwaits⟩⟩
    · have hle := (waiting_sublist names rest (Manifest.settle registry entry).1).length_le
      exact absurd h (Nat.not_le_of_lt (Nat.lt_succ_of_le hle))

/-- The rounds end with all entries registered, or with some of which each waits for another. -/
theorem rounds_cases (hn : (visualBase :: manifest.names).Nodup) (registry : Registry)
    (pending : List Entry) (hsub : pending.Sublist manifest)
    (h : Loading manifest registry (pending.map Entry.name)) :
    (∃ loaded, (rounds manifest.names registry pending).1 = .ok loaded ∧
      Loading manifest loaded []) ∨
    ∃ stuck reached, (rounds manifest.names registry pending).1 = .error (stuck.map Entry.name) ∧
      stuck ≠ [] ∧ stuck.Sublist manifest ∧ Loading manifest reached (stuck.map Entry.name) ∧
        ∀ entry ∈ stuck, waits manifest.names reached entry = true := by
  unfold rounds
  split
  · next hnil =>
    obtain rfl := List.isEmpty_iff.1 hnil
    exact .inl ⟨registry, rfl, h⟩
  · next hnil =>
    dsimp only
    split
    · have hround := loading_round hn pending [] (fun _ hmem => hsub.subset hmem) h
      exact rounds_cases hn _ _ ((waiting_sublist _ _ _).trans hsub) hround
    · next hless =>
      obtain ⟨-, hall, hwaits⟩ := round_of_waiting _ _ _ (Nat.le_of_not_lt hless)
      rw [hall]
      exact .inr ⟨pending, registry, rfl, fun he => hnil (List.isEmpty_iff.2 he), hsub, h, hwaits⟩
termination_by pending.length

/-! ## The end of loading -/

/-- The entries that are not to be registered yet are those whose chains never end, if each of them
waits for another. -/
theorem Loading.mem_iff_endless (hn : (visualBase :: manifest.names).Nodup) {stuck : List Entry}
    (hsub : stuck.Sublist manifest) (h : Loading manifest registry (stuck.map Entry.name))
    (hwaits : ∀ entry ∈ stuck, waits manifest.names registry entry = true) {entry : Entry}
    (hmem : entry ∈ manifest) : entry ∈ stuck ↔ manifest.Endless entry := by
  obtain ⟨hb, hnames⟩ := List.nodup_cons.1 hn
  constructor
  · refine fun hstuck => endless_of_closed hsub.subset (fun waiting hw => ?_) entry hstuck
    obtain ⟨own, parent, hparent, extended, hunknown⟩ := waits_iff.1 (hwaits waiting hw)
    obtain ⟨next, hnext, rfl⟩ := List.mem_map.1 (h.mem_pending hparent hunknown)
    exact ⟨own, next, hnext, extended⟩
  · intro hendless
    by_contra hout
    have hknown : registry.knows entry.name = true := by
      by_contra hunknown
      obtain ⟨other, hother, hname⟩ := List.mem_map.1
        (h.mem_pending (mem_names hmem) (Bool.eq_false_iff.2 hunknown))
      exact hout (eq_of_name_eq hnames (hsub.subset hother) hmem hname ▸ hother)
    obtain ⟨descriptor, hresolved⟩ := Option.isSome_iff_exists.1 hknown
    generalize hname : entry.name = name at hresolved
    cases h.describes hresolved with
    | base => exact hb (hname ▸ mem_names hmem)
    | entry defined ends =>
      obtain rfl := eq_of_name_eq hnames hmem defined hname
      exact ends.not_endless hnames hb hendless

/-- Once all entries are registered, the registry knows what the manifest describes. -/
theorem Loading.resolve_iff (hn : (visualBase :: manifest.names).Nodup)
    (h : Loading manifest registry []) {name : String} {descriptor : Descriptor} :
    registry.resolve name = some descriptor ↔ Describes manifest name descriptor := by
  obtain ⟨hb, hnames⟩ := List.nodup_cons.1 hn
  refine ⟨h.describes, fun hd => ?_⟩
  have hkey : name ∈ registry.descriptors.keys := by
    have hall := h.names_perm
    rw [List.append_nil] at hall
    rw [hall.mem_iff]
    cases hd with
    | base => exact List.mem_cons_self
    | entry defined _ => exact List.mem_cons_of_mem _ (mem_names defined)
  obtain ⟨found, hfound⟩ := exists_get?_of_mem_keys hkey
  exact hfound.trans (congrArg some ((h.describes hfound).unique hnames hb hd))

end

/-- A part of a list without repetitions that keeps its order is told by its members. -/
theorem eq_filter_of_sublist {α : Type} {p : α → Prop} [DecidablePred p] {part whole : List α}
    (hn : whole.Nodup) (hsub : part.Sublist whole) (h : ∀ a ∈ whole, a ∈ part ↔ p a) :
    part = whole.filter p := by
  have hfiltered : part.Sublist (whole.filter p) := by
    have hpart : part.filter p = part :=
      List.filter_eq_self.2 fun a ha => decide_eq_true ((h a (hsub.subset ha)).1 ha)
    rw [← hpart]
    exact hsub.filter _
  refine hfiltered.eq_of_length_le (List.subperm_of_subset (hn.filter _) fun a ha => ?_).length_le
  obtain ⟨hmem, hp⟩ := List.mem_filter.1 ha
  exact (h a hmem).2 (of_decide_eq_true hp)

/-- A manifest whose names are distinct and not the one of the base type gives a registry of the
types that it describes, if every chain ends, and else the names of the entries whose chains never
end. -/
theorem registry_cases {manifest : Manifest} (hn : manifest.names.Nodup)
    (hb : visualBase ∉ manifest.names) :
    (manifest.endlessNames = [] ∧ ∃ loaded, manifest.registry.1 = .ok loaded ∧
      loaded.descriptors.keys.Perm (visualBase :: manifest.names) ∧
      ∀ name descriptor, loaded.resolve name = some descriptor ↔
        Describes manifest name descriptor) ∨
    (manifest.endlessNames ≠ [] ∧ manifest.registry.1 = .error manifest.endlessNames) := by
  classical
  have hall : (visualBase :: manifest.names).Nodup := List.nodup_cons.2 ⟨hb, hn⟩
  rcases rounds_cases hall .base manifest (.refl _) (.start manifest) with
    ⟨loaded, hloaded, h⟩ | ⟨stuck, reached, herror, hne, hsub, h, hwaits⟩
  · refine .inl ⟨?_, loaded, hloaded, ?_, fun name descriptor => h.resolve_iff hall⟩
    · have hnone : ∀ entry ∈ manifest, entry ∈ [] ↔ manifest.Endless entry := fun entry =>
        h.mem_iff_endless hall (List.nil_sublist _) fun _ hmem => absurd hmem List.not_mem_nil
      rw [endlessNames, ← eq_filter_of_sublist (.of_map _ hn) (List.nil_sublist _) hnone]
      rfl
    · have hperm := h.names_perm
      rwa [List.append_nil] at hperm
  · have hstuck := eq_filter_of_sublist (.of_map _ hn) hsub fun entry =>
      h.mem_iff_endless hall hsub hwaits
    have hnames : manifest.endlessNames = stuck.map Entry.name := by
      rw [hstuck]
      unfold endlessNames
      congr
    refine .inr ⟨?_, herror.trans (congrArg _ hnames.symm)⟩
    rw [hnames]
    exact fun he => hne (List.map_eq_nil_iff.1 he)

example : (registry [⟨"c", some "b", none, []⟩, ⟨"a", some "b", none, []⟩,
    ⟨"d", some "a", some .service, []⟩, ⟨"b", some "a", none, []⟩]).1 = .error ["c", "a", "b"] := by
  decide +kernel

end Manifest

end PageCompiler.Component
