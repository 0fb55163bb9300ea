import PageCompiler.Proofs.Build.LoadedRegistry
import PageCompiler.Proofs.Component.Lineage

/-!
# Registered types and loaded types

The category of a type is found by looking at the type that it extends, once, when it is registered.
The chain of types says the same as long as no type is registered before one that it extends, and a
file gives the same types as registering its entries in an order like that
(`returned_isVisual_of_calls`). Registered too early, a type stays a service although its chain
reaches the base type, and so does what extends it (`service_of_early`).
-/

namespace PageCompiler.Build

open Component

/-- A file gives the types that registering its entries gives, in any order in which each entry
stands behind the one that it extends. -/
theorem resolve_of_order {disk : Disk} {path : Path} {manifest order : Manifest}
    (h : Spells disk path manifest) (hn : (visualBase :: manifest.names).Nodup)
    (hown : ∀ entry ∈ order, entry.category = none) (hperm : order.Perm manifest)
    (hfirst : order.ParentsFirst) (shown : String) :
    ∃ registry, (loadRegistry disk path shown).result = .ok registry ∧
      registry.resolve = order.grown.resolve := by
  obtain ⟨hb, hnames⟩ := List.nodup_cons.1 hn
  have hgrown := Manifest.loading_grown hn hown hperm hfirst
  rcases loadRegistry_cases h hnames hb shown with ⟨-, registry, hloaded, -, hknown⟩ | ⟨hne, -⟩
  · refine ⟨registry, hloaded, ?_⟩
    funext name
    refine Option.ext fun descriptor => ?_
    rw [hknown, hgrown.resolve_iff hn]
  · exact absurd (Manifest.endlessNames_eq_nil hn hown hperm hfirst) hne

/-- Types are registered one after the other by what they extend, under distinct names other than
the one of the base type. Each of them is visual if and only if a way leads back from it to the base
type, from each type to one that was registered before it; where none was registered before one that
it extends, this is the chain through all types that were registered before. What was registered
under a name stays the same from then on. In an order in which each type stands behind the one that
it extends, they are what loading gives from a file that lists them in any order. -/
theorem returned_isVisual_of_calls {calls : Manifest} (hown : ∀ call ∈ calls, call.category = none)
    (hn : calls.names.Nodup) (hb : visualBase ∉ calls.names) :
    (∀ before call after, calls = before ++ call :: after →
      ((Manifest.returned before call).isVisual = true ↔ Manifest.LeadsBack before call) ∧
      (Manifest.NoneEarly before →
        ((Manifest.returned before call).isVisual = true ↔ Manifest.Ends before call .visual)) ∧
      ∀ earlier later, after = earlier ++ later →
        (Manifest.grown (before ++ call :: earlier)).resolve call.name =
          some (Manifest.returned before call)) ∧
    (calls.ParentsFirst → ∀ {disk path manifest}, Spells disk path manifest →
      calls.Perm manifest → ∀ shown, ∃ registry,
        (loadRegistry disk path shown).result = .ok registry ∧
          registry.resolve = calls.grown.resolve) := by
  have hall : (visualBase :: calls.names).Nodup := List.nodup_cons.2 ⟨hb, hn⟩
  refine ⟨?_, fun hfirst disk path manifest hspells hperm shown => ?_⟩
  · rintro before call after rfl
    obtain ⟨hbefore, hafter⟩ := List.forall_mem_append.1 hown
    have hvisual : (Manifest.returned before call).isVisual = true ↔
        Manifest.LeadsBack before call :=
      Manifest.returned_isVisual_iff (Manifest.nodup_names_of_append hall)
    refine ⟨hvisual, fun hearly => hvisual.trans ?_, ?_⟩
    · exact Manifest.leadsBack_iff_ends hbefore (List.forall_mem_cons.1 hafter).1 hearly
    · rintro earlier later rfl
      have hfresh : call.name ∉ Manifest.names (earlier ++ later) :=
        Manifest.not_mem_names_of_append hn
      rw [Manifest.names, List.map_append] at hfresh
      exact Manifest.resolve_grown before call fun hmem => hfresh (List.mem_append_left _ hmem)
  · have hnames := (hperm.map Entry.name).cons visualBase
    exact resolve_of_order hspells (hnames.nodup_iff.1 hall) hown hperm hfirst shown

/-- A type that extends the base type. -/
def boxCall : Entry :=
  ⟨"ui.Box", some visualBase, none, []⟩

/-- A type that extends it. -/
def showCall : Entry :=
  ⟨"ui.Show", some "ui.Box", none, []⟩

/-- These two, and a type with an unknown parent. -/
def widgetCalls : Manifest :=
  [boxCall, showCall, ⟨"ui.Log", some "lib.Log", none, []⟩]

/-- A manifest of these types, in the opposite order. -/
def widgetText : String :=
  manifestText
    ["\x7b\"name\":\"ui.Log\",\"extends\":\"lib.Log\"\x7d",
     "\x7b\"name\":\"ui.Show\",\"extends\":\"ui.Box\"\x7d",
     "\x7b\"name\":\"ui.Box\",\"extends\":\"slplayer.ui.DisplayObject\"\x7d"]

/-- A disk with the manifest. -/
def widgetDisk : Disk :=
  ⟨[(["up.json"], .file (Disk.encode widgetText))], []⟩

theorem returned_isVisual_of_calls_widgets :
    (Manifest.returned [boxCall] showCall).isVisual = true ∧
    Manifest.Ends [boxCall] showCall .visual ∧
    ∃ registry, (loadRegistry widgetDisk (.ofText "up.json") "up.json").result = .ok registry ∧
      registry.resolve = widgetCalls.grown.resolve ∧
      registry.resolve "ui.Show" = some ⟨"ui.Show", .visual, []⟩ := by
  have hspells : Spells widgetDisk (.ofText "up.json") widgetCalls.reverse :=
    ⟨Disk.encode widgetText, widgetText, by decide +kernel, by decide +kernel, by decide +kernel⟩
  have hfirst : widgetCalls.ParentsFirst := ⟨by decide, by decide⟩
  have hown : ∀ call ∈ widgetCalls, call.category = none := by decide
  obtain ⟨hcalls, hload⟩ := returned_isVisual_of_calls hown (by decide) (by decide)
  obtain ⟨hway, hchain, hkept⟩ := hcalls [boxCall] showCall (widgetCalls.drop 2) rfl
  have hleads : Manifest.LeadsBack ([] ++ boxCall :: []) showCall := .next rfl (.base rfl)
  have hvisual := hway.2 hleads
  obtain ⟨registry, hloaded, hsame⟩ :=
    hload hfirst hspells (List.reverse_perm widgetCalls).symm "up.json"
  refine ⟨hvisual, (hchain (by decide)).1 hvisual, registry, hloaded, hsame, ?_⟩
  rw [hsame]
  exact hkept (widgetCalls.drop 2) [] rfl

/-- A type is registered before the one that it extends. -/
def earlyCalls : Manifest :=
  [⟨"ui.Show", some "ui.Box", none, []⟩, ⟨"ui.Box", some visualBase, none, []⟩]

/-- The chain of a third type leads through these two to the base type, but it is a service, as the
first of them is. -/
theorem service_of_early :
    (Manifest.names (earlyCalls ++ [⟨"ui.Page", some "ui.Show", none, []⟩])).Nodup ∧
    visualBase ∉ Manifest.names (earlyCalls ++ [⟨"ui.Page", some "ui.Show", none, []⟩]) ∧
    earlyCalls.Ends ⟨"ui.Page", some "ui.Show", none, []⟩ .visual ∧
    (earlyCalls.returned ⟨"ui.Page", some "ui.Show", none, []⟩).isVisual = false := by
  have hbox : earlyCalls.Ends ⟨"ui.Box", some visualBase, none, []⟩ .visual := .base rfl rfl
  have hshow : earlyCalls.Ends ⟨"ui.Show", some "ui.Box", none, []⟩ .visual :=
    .next rfl (List.mem_cons_of_mem _ List.mem_cons_self) rfl hbox
  exact ⟨by decide, by decide, .next rfl List.mem_cons_self rfl hshow, by decide⟩

end PageCompiler.Build
