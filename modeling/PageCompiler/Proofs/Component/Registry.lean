import PageCompiler.Component.Manifest

/-!
# How registries are made

A registry starts with the visual base type and grows by registering types, one at a time, be they
given as descriptors, by what they extend or in a manifest (`made_ofDescriptors`, `made_manifest`).
So a type is always found under its own name (`Registry.Made.name_of_resolve`).
-/

namespace PageCompiler.Component

/-- A registry that was made by registering types. -/
inductive Registry.Made : Registry → Prop
  | base : Made .base
  | register {registry : Registry} (made : Made registry) (descriptor : Descriptor) :
      Made (registry.register descriptor)

/-- A type is found under its own name. -/
theorem Registry.Made.name_of_resolve {registry : Registry} (h : registry.Made) {name : String}
    {descriptor : Descriptor} (hr : registry.resolve name = some descriptor) :
    descriptor.name = name := by
  induction h with
  | base =>
    rw [Registry.resolve, Registry.base, Keyed.get?] at hr
    split at hr
    · next hname => exact Option.some.inj hr ▸ hname
    · cases hr
  | register _ added ih =>
    rw [Registry.resolve, Registry.register, Keyed.get?_put] at hr
    split at hr
    · next hname => exact Option.some.inj hr ▸ hname
    · exact ih hr

theorem Registry.Made.foldl_register : ∀ (descriptors : List Descriptor) {registry : Registry},
    registry.Made → (descriptors.foldl Registry.register registry).Made
  | [], _, h => h
  | descriptor :: descriptors, _, h => foldl_register descriptors (h.register descriptor)

theorem made_ofDescriptors (descriptors : List Descriptor) :
    (Registry.ofDescriptors descriptors).Made :=
  Registry.Made.foldl_register descriptors .base

/-! ## Manifests -/

namespace Manifest

theorem made_settle {registry : Registry} (h : registry.Made) (entry : Entry) :
    (settle registry entry).1.Made := by
  unfold settle
  split
  · exact h.register _
  · exact h.register _

theorem made_round (names : List String) : ∀ (entries : List Entry) {registry : Registry},
    registry.Made → (round names registry entries).registry.Made
  | [], _, h => h
  | entry :: rest, registry, h => by
    unfold round
    split
    · exact made_round names rest h
    · exact made_round names rest (made_settle h entry)

theorem made_rounds (names : List String) (registry : Registry) (pending : List Entry)
    (h : registry.Made) {made : Registry} {log : Log}
    (hr : rounds names registry pending = (.ok made, log)) : made.Made := by
  unfold rounds at hr
  dsimp only at hr
  split at hr
  · cases hr
    exact h
  · split at hr
    · next hless =>
      exact made_rounds names _ _ (made_round names pending h) (Prod.ext (Prod.mk.inj hr).1 rfl)
    · cases hr
termination_by pending.length

end Manifest

/-- A manifest registers its types one by one. -/
theorem made_manifest {manifest : Manifest} {registry : Registry} {log : Log}
    (h : manifest.registry = (.ok registry, log)) : registry.Made :=
  Manifest.made_rounds manifest.names .base manifest .base h

end PageCompiler.Component
