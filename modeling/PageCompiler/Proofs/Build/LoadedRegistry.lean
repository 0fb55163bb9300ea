import PageCompiler.Build.Run
import PageCompiler.Proofs.Component.Chains

/-!
# Registries from files

What is loaded from a file that spells a manifest is what the manifest describes, wherever its
entries stand (`registry_of_spells`). The only failure left is that some chain of types never ends;
it names the entries with such a chain, as they stand in the file.
-/

namespace PageCompiler.Build

open Component

/-- The file at a path spells a manifest. -/
def Spells (disk : Disk) (path : Path) (manifest : Manifest) : Prop :=
  ∃ bytes text, disk.read path = .ok bytes ∧ Text.readText bytes = .ok text ∧
    Manifest.ofText text = .ok manifest

theorem result_loadRegistry {disk : Disk} {path : Path} {manifest : Manifest}
    (h : Spells disk path manifest) (shown : String) :
    (loadRegistry disk path shown).result =
      manifest.registry.1.mapError fun names => .build (.cyclicManifest shown names) := by
  obtain ⟨bytes, text, hread, htext, hmanifest⟩ := h
  simp only [loadRegistry, hread, htext, hmanifest]
  obtain ⟨result, log⟩ := manifest.registry
  cases result <;> rfl

/-- Loading a manifest whose names are distinct and not the one of the base type gives a registry of
what it describes if every chain ends, and else the names of the entries whose chains never end. -/
theorem loadRegistry_cases {disk : Disk} {path : Path} {manifest : Manifest}
    (h : Spells disk path manifest) (hn : manifest.names.Nodup)
    (hb : visualBase ∉ manifest.names) (shown : String) :
    (manifest.endlessNames = [] ∧ ∃ registry,
      (loadRegistry disk path shown).result = .ok registry ∧
        registry.descriptors.keys.Perm (visualBase :: manifest.names) ∧
          ∀ name descriptor, registry.resolve name = some descriptor ↔
            manifest.Describes name descriptor) ∨
    (manifest.endlessNames ≠ [] ∧ (loadRegistry disk path shown).result =
      .error (.build (.cyclicManifest shown manifest.endlessNames))) := by
  rw [result_loadRegistry h]
  rcases Manifest.registry_cases hn hb with ⟨hnone, registry, hloaded, hknown⟩ | ⟨hsome, herror⟩
  · exact .inl ⟨hnone, registry, congrArg _ hloaded, hknown⟩
  · exact .inr ⟨hsome, congrArg _ herror⟩

/-- Loading a manifest whose names are distinct and not the one of the base type fails if and only
if some chain of types never ends, and then names the entries with such chains. Else it gives the
base type and for each entry the type that its chain decides. In another order the entries give the
same types, or the same names in that order. -/
theorem registry_of_spells {disk : Disk} {path : Path} {manifest : Manifest}
    (h : Spells disk path manifest) (hn : manifest.names.Nodup)
    (hb : visualBase ∉ manifest.names) (shown : String) :
    ((∃ entry ∈ manifest, manifest.Endless entry) ↔
      ∃ failure, (loadRegistry disk path shown).result = .error failure) ∧
    (∀ failure, (loadRegistry disk path shown).result = .error failure →
      failure = .build (.cyclicManifest shown manifest.endlessNames) ∧
        failure.message = "cyclic extends in component manifest " ++ shown ++ ": " ++
          ", ".intercalate manifest.endlessNames) ∧
    (∀ registry, (loadRegistry disk path shown).result = .ok registry →
      registry.descriptors.keys.Perm (visualBase :: manifest.names) ∧
        ∀ name descriptor, registry.resolve name = some descriptor ↔
          manifest.Describes name descriptor) ∧
    ∀ {disk' : Disk} {path' : Path} {other : Manifest}, Spells disk' path' other →
      manifest.Perm other → ∀ shown',
        (∃ registry registry', (loadRegistry disk path shown).result = .ok registry ∧
          (loadRegistry disk' path' shown').result = .ok registry' ∧
            registry'.resolve = registry.resolve) ∨
        ∃ names names', (loadRegistry disk path shown).result =
            .error (.build (.cyclicManifest shown names)) ∧
          (loadRegistry disk' path' shown').result =
            .error (.build (.cyclicManifest shown' names')) ∧ names.Perm names' := by
  rw [← Manifest.endlessNames_ne_nil]
  have hcases := loadRegistry_cases h hn hb shown
  refine ⟨?_, ?_, ?_, ?_⟩
  · rcases hcases with ⟨hnone, registry, hloaded, -⟩ | ⟨hsome, herror⟩
    · simp [hnone, hloaded]
    · simp [hsome, herror]
  · intro failure hfailure
    rcases hcases with ⟨-, registry, hloaded, -⟩ | ⟨-, herror⟩
    · rw [hloaded] at hfailure
      cases hfailure
    · obtain rfl := Except.error.inj (herror.symm.trans hfailure)
      exact ⟨rfl, rfl⟩
  · intro registry hregistry
    rcases hcases with ⟨-, loaded, hloaded, hknown⟩ | ⟨-, herror⟩
    · obtain rfl := Except.ok.inj (hloaded.symm.trans hregistry)
      exact hknown
    · rw [herror] at hregistry
      cases hregistry
  · intro disk' path' other h' hperm shown'
    have hnames := hperm.map Entry.name
    have hcases' := loadRegistry_cases h' (hnames.nodup_iff.1 hn)
      (fun hmem => hb (hnames.mem_iff.2 hmem)) shown'
    have hendless := Manifest.endlessNames_perm hperm
    rcases hcases with ⟨hnone, registry, hloaded, -, hknown⟩ | ⟨hsome, herror⟩
    · rcases hcases' with ⟨-, registry', hloaded', -, hknown'⟩ | ⟨hsome', -⟩
      · refine .inl ⟨registry, registry', hloaded, hloaded', ?_⟩
        funext name
        refine Option.ext fun descriptor => ?_
        rw [hknown, hknown']
        exact ⟨Manifest.Describes.of_perm hperm.symm, Manifest.Describes.of_perm hperm⟩
      · exact absurd (List.nil_perm.1 (hnone ▸ hendless)) hsome'
    · rcases hcases' with ⟨hnone', -⟩ | ⟨-, herror'⟩
      · exact absurd (List.perm_nil.1 (hnone' ▸ hendless)) hsome
      · exact .inr ⟨_, _, herror, herror', hendless⟩

/-- A manifest whose first entry extends the second. -/
def galleryManifest : Manifest :=
  [⟨"ui.Show", some "ui.Box", none, []⟩, ⟨"ui.Box", none, some .visual, []⟩]

/-- The texts of its entries. -/
def galleryTexts : List String :=
  ["\x7b\"name\":\"ui.Show\",\"extends\":\"ui.Box\"\x7d",
   "\x7b\"name\":\"ui.Box\",\"category\":\"visual\"\x7d"]

/-- The text of a manifest with some entries. -/
def manifestText (entries : List String) : String :=
  "\x7b\"components\":[" ++ ",".intercalate entries ++ "]\x7d"

/-- A disk with the manifest and one with its entries in the opposite order. -/
def galleryDisk : Disk :=
  ⟨[(["down.json"], .file (Disk.encode (manifestText galleryTexts))),
    (["up.json"], .file (Disk.encode (manifestText galleryTexts.reverse)))], []⟩

theorem registry_of_spells_gallery :
    Spells galleryDisk (.ofText "down.json") galleryManifest ∧
    Spells galleryDisk (.ofText "up.json") galleryManifest.reverse ∧
    ∃ registry registry',
      (loadRegistry galleryDisk (.ofText "down.json") "down.json").result = .ok registry ∧
      (loadRegistry galleryDisk (.ofText "up.json") "up.json").result = .ok registry' ∧
      registry'.resolve = registry.resolve ∧
      registry.resolve "ui.Show" = some ⟨"ui.Show", .visual, []⟩ := by
  have hdown : Spells galleryDisk (.ofText "down.json") galleryManifest :=
    ⟨Disk.encode (manifestText galleryTexts), manifestText galleryTexts, by decide +kernel,
      by decide +kernel, by decide +kernel⟩
  have hup : Spells galleryDisk (.ofText "up.json") galleryManifest.reverse :=
    ⟨Disk.encode (manifestText galleryTexts.reverse), manifestText galleryTexts.reverse,
      by decide +kernel, by decide +kernel, by decide +kernel⟩
  obtain ⟨hfails, -, hknown, horder⟩ :=
    registry_of_spells hdown (by decide) (by decide) "down.json"
  have hbox : galleryManifest.Ends ⟨"ui.Box", none, some .visual, []⟩ .visual := .named rfl
  have hshow : galleryManifest.Ends ⟨"ui.Show", some "ui.Box", none, []⟩ .visual :=
    .next rfl (List.mem_cons_of_mem _ List.mem_cons_self) rfl hbox
  refine ⟨hdown, hup, ?_⟩
  rcases horder hup (List.reverse_perm _).symm "up.json" with
    ⟨registry, registry', hloaded, hloaded', hsame⟩ | ⟨names, names', hfailed, -⟩
  · exact ⟨registry, registry', hloaded, hloaded', hsame,
      ((hknown registry hloaded).2 _ _).2 (.entry List.mem_cons_self hshow)⟩
  · obtain ⟨entry, hmem, hendless⟩ := hfails.2 ⟨_, hfailed⟩
    have hends : ∀ entry ∈ galleryManifest, galleryManifest.Ends entry .visual :=
      List.forall_mem_cons.2 ⟨hshow, List.forall_mem_singleton.2 hbox⟩
    exact absurd hendless ((hends entry hmem).not_endless (by decide) (by decide))

end PageCompiler.Build
