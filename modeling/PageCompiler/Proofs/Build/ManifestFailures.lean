import PageCompiler.Proofs.Build.LoadedRegistry
import PageCompiler.Proofs.Disk
import PageCompiler.Proofs.Text.Utf8

/-!
# Manifests that cannot be loaded

A manifest that is missing, a directory, no JSON, not as it should be or without an end to some
chain of types is refused in words about that manifest (`BlamesManifest`). Two failures are not
foreseen : a file that is not UTF-8, and a path with the character NUL. In every other case loading
a registry gives one or blames the manifest (`settles_loadRegistry_iff`).
-/

namespace PageCompiler.Build

open Component
open Json (Issue)

/-- A failure says what is wrong with a manifest. -/
inductive BlamesManifest (shown : String) (path : Path) : Failure → Prop
  | unreadable (fault : DiskFault) :
      BlamesManifest shown path (.build (.unreadableManifest shown path fault))
  | invalid (issues : List Issue) :
      BlamesManifest shown path (.build (.invalidManifest shown issues))
  | cyclic (names : List String) :
      BlamesManifest shown path (.build (.cyclicManifest shown names))

/-- A registry is loaded, or the failure says what is wrong with the manifest. -/
inductive Settles (shown : String) (path : Path) : Except Failure Registry → Prop
  | loaded (registry : Registry) : Settles shown path (.ok registry)
  | refused {failure : Failure} (h : BlamesManifest shown path failure) :
      Settles shown path (.error failure)

/-- The file at a path, if there is one, holds a text. -/
def HoldsText (disk : Disk) (path : Path) : Prop :=
  ∀ bytes, disk.read path = .ok bytes → ∃ text, bytes = Disk.encode text

variable {disk : Disk} {path : Path} {shown : String}

theorem result_loadRegistry_of_fault {fault : DiskFault}
    (h : disk.read path = .error (.fault fault)) :
    (loadRegistry disk path shown).result =
      .error (.build (.unreadableManifest shown path fault)) := by
  rw [loadRegistry, h]
  rfl

theorem result_loadRegistry_of_nul (h : '\x00' ∈ path.text.toList) :
    (loadRegistry disk path shown).result = .error .nulInPath := by
  rw [loadRegistry, Disk.read_eq_nulInPath_iff.2 h]
  rfl

theorem result_loadRegistry_of_notText {bytes : List UInt8} {e : Text.Utf8Error}
    (h : disk.read path = .ok bytes) (he : Text.readText bytes = .error e) :
    (loadRegistry disk path shown).result = .error (.notText e) := by
  simp only [loadRegistry, h, he]
  rfl

theorem result_loadRegistry_of_invalid {bytes : List UInt8} {text : String} {issues : List Issue}
    (h : disk.read path = .ok bytes) (htext : Text.readText bytes = .ok text)
    (hissues : Manifest.ofText text = .error issues) :
    (loadRegistry disk path shown).result = .error (.build (.invalidManifest shown issues)) := by
  simp only [loadRegistry, h, htext, hissues]
  rfl

theorem settles_of_spells {manifest : Manifest} (h : Spells disk path manifest) :
    Settles shown path (loadRegistry disk path shown).result := by
  rw [result_loadRegistry h]
  cases manifest.registry.1 with
  | error names => exact .refused (.cyclic names)
  | ok registry => exact .loaded registry

/-- A file that holds a text is loaded or refused with words about the manifest. -/
theorem settles_of_readText {bytes : List UInt8} {text : String} (h : disk.read path = .ok bytes)
    (htext : Text.readText bytes = .ok text) :
    Settles shown path (loadRegistry disk path shown).result := by
  cases hmanifest : Manifest.ofText text with
  | error issues =>
    rw [result_loadRegistry_of_invalid h htext hmanifest]
    exact .refused (.invalid issues)
  | ok manifest => exact settles_of_spells ⟨bytes, text, h, htext, hmanifest⟩

theorem holdsText_iff {bytes : List UInt8} (h : disk.read path = .ok bytes) :
    HoldsText disk path ↔ ∃ text, Text.readText bytes = .ok text := by
  constructor
  · intro hall
    obtain ⟨text, htext⟩ := hall bytes h
    exact ⟨_, Text.readText_eq_ok_iff.2 ⟨text, htext, rfl⟩⟩
  · rintro ⟨text, htext⟩ found hfound
    obtain rfl := Except.ok.inj (h.symm.trans hfound)
    obtain ⟨written, hbytes, -⟩ := Text.readText_eq_ok_iff.1 htext
    exact ⟨written, hbytes⟩

/-- Loading a registry gives one or says what is wrong with the manifest, if and only if the path is
one to the disk and the file there, if there is one, is UTF-8. So a missing file and a directory are
reported as what they are. A file that is not UTF-8 leads to the fault of its first bad sequence,
and a path with the character NUL to a failure of its own : neither speaks of a manifest. -/
theorem settles_loadRegistry_iff (disk : Disk) (path : Path) (shown : String) :
    (Settles shown path (loadRegistry disk path shown).result ↔
      '\x00' ∉ path.text.toList ∧ HoldsText disk path) ∧
    (∀ fault, disk.read path = .error (.fault fault) →
      (loadRegistry disk path shown).result =
        .error (.build (.unreadableManifest shown path fault))) ∧
    (¬HoldsText disk path → ∃ bytes e, disk.read path = .ok bytes ∧ Text.decode bytes = .error e ∧
      (loadRegistry disk path shown).result = .error (.notText e)) ∧
    ('\x00' ∈ path.text.toList → (loadRegistry disk path shown).result = .error .nulInPath) := by
  refine ⟨?_, fun _ => result_loadRegistry_of_fault, fun hno => ?_, result_loadRegistry_of_nul⟩
  · have hpath : disk.read path ≠ .error .nulInPath → '\x00' ∉ path.text.toList :=
      mt Disk.read_eq_nulInPath_iff.2
    cases hread : disk.read path with
    | error e =>
      have htext : HoldsText disk path := by simp [HoldsText, hread]
      cases e with
      | fault fault =>
        rw [result_loadRegistry_of_fault hread]
        exact iff_of_true (.refused (.unreadable fault)) ⟨hpath (by simp [hread]), htext⟩
      | nulInPath =>
        have hnul := Disk.read_eq_nulInPath_iff.1 hread
        rw [result_loadRegistry_of_nul hnul]
        refine iff_of_false ?_ fun h => h.1 hnul
        rintro (_ | ⟨⟨⟩⟩)
    | ok bytes =>
      rw [holdsText_iff hread, and_iff_right (hpath (by simp [hread]))]
      cases htext : Text.readText bytes with
      | ok text => exact iff_of_true (settles_of_readText hread htext) ⟨text, rfl⟩
      | error e =>
        rw [result_loadRegistry_of_notText hread htext]
        refine iff_of_false ?_ (by simp)
        rintro (_ | ⟨⟨⟩⟩)
  · cases hread : disk.read path with
    | error e => exact absurd (by simp [HoldsText, hread]) hno
    | ok bytes =>
      cases htext : Text.readText bytes with
      | ok text => exact absurd ((holdsText_iff hread).2 ⟨text, htext⟩) hno
      | error e =>
        exact ⟨bytes, e, rfl, map_eq_error htext, result_loadRegistry_of_notText hread htext⟩

/-- A disk with a file of one byte that starts no character. -/
def strayByteDisk : Disk :=
  ⟨[(["m.json"], .file [0xFF])], []⟩

/-- A manifest that is not UTF-8 is not refused as a manifest. -/
theorem manifest_not_blamed : strayByteDisk.read (.ofText "m.json") = .ok [0xFF] ∧
    ¬Settles "m.json" (.ofText "m.json")
      (loadRegistry strayByteDisk (.ofText "m.json") "m.json").result := by
  refine ⟨by decide, ?_⟩
  have hresult : (loadRegistry strayByteDisk (.ofText "m.json") "m.json").result =
      .error (.notText ⟨.invalidStart, 0, 0xFF, 1⟩) := by decide +kernel
  rw [hresult]
  rintro (_ | ⟨⟨⟩⟩)

end PageCompiler.Build
