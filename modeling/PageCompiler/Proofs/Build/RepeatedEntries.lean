import PageCompiler.Proofs.Build.LoadedRegistry
import PageCompiler.Proofs.Component.Settling
import PageCompiler.Proofs.Results

/-!
# Manifests that give a name several times

Whatever names a manifest repeats, loading it registers its entries in some order. An entry that
names no category, and whose name is not repeated, has the category that its parent had at its turn.
That is the category that the parent has in the end, unless an entry with the parent's name comes
behind it; so it is when the parent's name is not repeated (`agreesWith_of_loaded`).

Such an entry can come behind, as waiting ends with the first entry of a name : a service is
replaced by a visual type when a type that extends it is registered (`not_agreesWith_of_replaced`).
-/

namespace PageCompiler.Build

open Component

/-- Loading gives the registry of the manifest that the file spells. -/
theorem loadRegistry_eq_ok_iff {disk : Disk} {path : Path} {manifest : Manifest}
    (h : Spells disk path manifest) {shown : String} {registry : Registry} :
    (loadRegistry disk path shown).result = .ok registry ↔ manifest.registry.1 = .ok registry := by
  rw [result_loadRegistry h]
  exact ⟨mapError_eq_ok, fun hloaded => by rw [hloaded]; rfl⟩

/-- A manifest is loaded by registering its entries in some order, in which an entry that extends a
name of the manifest stands behind an entry with that name. An entry without a category of its own,
whose name is given once, agrees with the registry if and only if what it extends has the same
category at its turn and in the end. It does if no entry with the name that it extends comes behind
it, and it does if that name is given once or not at all. -/
theorem agreesWith_of_loaded {disk : Disk} {path : Path} {manifest : Manifest}
    (h : Spells disk path manifest) {shown : String} {registry : Registry}
    (hload : (loadRegistry disk path shown).result = .ok registry) {entry : Entry}
    (hmem : entry ∈ manifest) (hown : entry.category = none)
    (honce : manifest.names.count entry.name = 1) :
    (∃ before after : Manifest, (before ++ entry :: after).Perm manifest ∧
      registry = Manifest.settleAll .base (before ++ entry :: after) ∧
      (∀ name ∈ manifest.names, entry.parent = some name →
        name ∈ visualBase :: before.names) ∧
      (entry.AgreesWith registry ↔ ∀ category,
        Inherits (Manifest.settleAll .base before) entry.parent category →
          Inherits registry entry.parent category) ∧
      ((∀ other ∈ after, entry.parent = some other.name → other.name = visualBase) →
        entry.AgreesWith registry)) ∧
    ((∀ name, entry.parent = some name → manifest.names.count name ≤ 1) →
      entry.AgreesWith registry) := by
  obtain ⟨order, hperm, horder⟩ :=
    Manifest.exists_order_of_registry ((loadRegistry_eq_ok_iff h).1 hload)
  obtain ⟨before, after, rfl⟩ := List.append_of_mem (hperm.mem_iff.2 hmem)
  obtain ⟨reached, hbefore, hready, hafter⟩ := horder.split
  have hname := Manifest.not_mem_of_count hperm honce
  have hbehind : (∀ other ∈ after, entry.parent = some other.name → other.name = visualBase) →
      entry.AgreesWith registry :=
    Manifest.agreesWith_of_behind hbefore hready hafter hown (Manifest.mem_names hmem) hname
  have hparents : ∀ name ∈ manifest.names, entry.parent = some name →
      name ∈ visualBase :: Manifest.names before := fun name hin hparent =>
    Manifest.mem_names_of_ready hbefore hready hown hin hparent
  refine ⟨⟨before, after, hperm, horder.eq_settleAll, hparents, ?_, hbehind⟩, fun hcount => ?_⟩
  · rw [← hbefore.eq_settleAll]
    exact Manifest.agreesWith_iff hafter hown hname.2
  · refine hbehind fun other hother hparent => ?_
    by_contra hbase
    have hin : other.name ∈ manifest.names :=
      Manifest.mem_names (hperm.mem_iff.1 (List.mem_append_right _ (List.mem_cons_of_mem _ hother)))
    have hearlier := (List.mem_cons.1 (hparents _ hin hparent)).resolve_left hbase
    exact Manifest.not_mem_after_of_count hperm (hcount _ hparent) hearlier
      (Manifest.mem_names hother)

/-- A type that extends a box. -/
def showEntry : Entry :=
  ⟨"ui.Show", some "ui.Box", none, []⟩

/-- A type that extends that one. -/
def pageEntry : Entry :=
  ⟨"ui.Page", some "ui.Show", none, []⟩

/-- These types between two boxes, of which only the second is visual. -/
def boxesManifest : Manifest :=
  [⟨"ui.Box", none, none, []⟩, pageEntry, showEntry, ⟨"ui.Box", some visualBase, none, []⟩]

/-- The text of the manifest. -/
def boxesText : String :=
  manifestText
    ["\x7b\"name\":\"ui.Box\"\x7d", "\x7b\"name\":\"ui.Page\",\"extends\":\"ui.Show\"\x7d",
     "\x7b\"name\":\"ui.Show\",\"extends\":\"ui.Box\"\x7d",
     "\x7b\"name\":\"ui.Box\",\"extends\":\"slplayer.ui.DisplayObject\"\x7d"]

/-- A disk with the manifest. -/
def boxesDisk : Disk :=
  ⟨[(["m.json"], .file (Disk.encode boxesText))], []⟩

theorem spells_boxesManifest : Spells boxesDisk (.ofText "m.json") boxesManifest :=
  ⟨Disk.encode boxesText, boxesText, by decide +kernel, by decide +kernel, by decide +kernel⟩

theorem agreesWith_of_loaded_boxes :
    Spells boxesDisk (.ofText "m.json") boxesManifest ∧
    ∃ registry, (loadRegistry boxesDisk (.ofText "m.json") "m.json").result = .ok registry ∧
      pageEntry ∈ boxesManifest ∧ pageEntry.category = none ∧
      boxesManifest.names.count pageEntry.name = 1 ∧ pageEntry.AgreesWith registry ∧
      registry.resolve "ui.Page" = some ⟨"ui.Page", .service, []⟩ := by
  have hrun : boxesManifest.registry.1.toOption.any fun registry =>
      registry.resolve "ui.Page" = some ⟨"ui.Page", .service, []⟩ := by
    decide +kernel
  obtain ⟨registry, hloaded, hpage⟩ := exists_ok_of_any hrun
  have hload : (loadRegistry boxesDisk (.ofText "m.json") "m.json").result = .ok registry :=
    (loadRegistry_eq_ok_iff spells_boxesManifest).2 hloaded
  have hmem : pageEntry ∈ boxesManifest := by decide
  have honce : boxesManifest.names.count pageEntry.name = 1 := by decide
  obtain ⟨-, hagrees⟩ := agreesWith_of_loaded spells_boxesManifest hload hmem rfl honce
  have hparent : ∀ name, pageEntry.parent = some name → boxesManifest.names.count name ≤ 1 := by
    rintro name hname
    obtain rfl := Option.some.inj hname
    decide
  exact ⟨spells_boxesManifest, registry, hload, hmem, rfl, honce, hagrees hparent,
    of_decide_eq_true hpage⟩

/-- The type is registered when only the first box is known, and is a service as that was. -/
theorem not_agreesWith_of_replaced :
    Spells boxesDisk (.ofText "m.json") boxesManifest ∧
    ∃ registry, (loadRegistry boxesDisk (.ofText "m.json") "m.json").result = .ok registry ∧
      showEntry ∈ boxesManifest ∧ showEntry.category = none ∧
      boxesManifest.names.count showEntry.name = 1 ∧ ¬showEntry.AgreesWith registry := by
  have hrun : boxesManifest.registry.1.toOption.any fun registry =>
      registry.resolve showEntry.name = some ⟨"ui.Show", .service, []⟩ ∧
        registry.categoryBelow showEntry.parent = .visual := by
    decide +kernel
  obtain ⟨registry, hloaded, hfound⟩ := exists_ok_of_any hrun
  have hload : (loadRegistry boxesDisk (.ofText "m.json") "m.json").result = .ok registry :=
    (loadRegistry_eq_ok_iff spells_boxesManifest).2 hloaded
  obtain ⟨hshow, hbox⟩ := of_decide_eq_true hfound
  refine ⟨spells_boxesManifest, registry, hload, by decide, rfl, by decide, ?_⟩
  rintro ⟨descriptor, hresolved, hinherits⟩
  obtain rfl := Option.some.inj (hshow.symm.trans hresolved)
  rw [inherits_iff, hbox] at hinherits
  cases hinherits

end PageCompiler.Build
