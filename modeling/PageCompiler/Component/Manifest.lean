import PageCompiler.Component.Registry
import PageCompiler.Json.Reader

/-!
# Component manifests

A manifest lists component types in any order. An entry that names its category is registered as it
is. Any other takes the category of the type it extends, so it waits until that type is registered
if the manifest has it. Entries are gone through in rounds, each round with those that had to wait
in the one before; when all of them wait, they extend each other in a circle.
-/

namespace PageCompiler.Component

open Json

/-- A component type as a manifest describes it. -/
structure Entry where
  name : String
  parent : Option String
  category : Option Category
  rules : List Rule
  deriving Repr, DecidableEq

/-- The types of a manifest, in the order of the file. -/
abbrev Manifest := List Entry

namespace Manifest

/-- The name of a manifest as a model, which reports of issues show. -/
def model : String := "RegistryManifest"

/-- One entry: a name, and possibly a parent, a category and rules. -/
def entryOfJson : Json → Checked Entry :=
  asModel fun fields =>
    ((required "name" asText fields).both
      ((optional "extends" none asText? fields).both
        ((optional "category" none
            (fun value => match value with
              | .null => .ok none
              | value => some <$> Category.ofJson value) fields).both
          (optional "rules" [] (Rule.listOfJson .text) fields)))).map
      fun (name, parent, category, rules) => ⟨name, parent, category, rules⟩

/-- A manifest: a record with a list of components. -/
def ofJson : Json → Checked Manifest :=
  asModel (optional "components" [] (asList entryOfJson))

/-- How deep lists and records may be nested in a file. -/
def maxDepth : Nat := 200

/-- The manifest that a text spells. -/
def ofText (text : String) : Checked Manifest :=
  match Json.read maxDepth text with
  | .error _ => Checked.fail .json
  | .ok value => ofJson value

/-- The names that the manifest defines. -/
def names (manifest : Manifest) : List String :=
  manifest.map Entry.name

/-- The entry needs a type of the manifest that is not registered yet. -/
def waits (names : List String) (registry : Registry) (entry : Entry) : Bool :=
  match entry.category, entry.parent with
  | none, some parent => names.contains parent && !registry.knows parent
  | _, _ => false

/-- What a round leaves: the registry, the entries that wait, and what was said. -/
structure Round where
  registry : Registry
  waiting : List Entry
  log : Log

/-- Register an entry that does not wait. -/
def settle (registry : Registry) (entry : Entry) : Registry × Log :=
  match entry.category with
  | some category => (registry.register ⟨entry.name, category, entry.rules⟩, [])
  | none =>
    (registry.registerBelow entry.name entry.parent entry.rules, registry.parentLog entry.parent)

/-- Go through the entries once. -/
def round (names : List String) : Registry → List Entry → Round
  | registry, [] => ⟨registry, [], []⟩
  | registry, entry :: rest =>
    if waits names registry entry then
      let after := round names registry rest
      { after with waiting := entry :: after.waiting }
    else
      let settled := settle registry entry
      let after := round names settled.1 rest
      { after with log := settled.2 ++ after.log }

/-- Go through the entries until none waits. The names of the entries in a circle are the error. -/
def rounds (names : List String) (registry : Registry) (pending : List Entry) :
    Except (List String) Registry × Log :=
  if pending.isEmpty then (.ok registry, [])
  else
    let after := round names registry pending
    if after.waiting.length < pending.length then
      let later := rounds names after.registry after.waiting
      (later.1, after.log ++ later.2)
    else (.error (after.waiting.map Entry.name), after.log)
termination_by pending.length

/-- The registry that a manifest describes, or the names of the types that extend each other in a
circle. -/
def registry (manifest : Manifest) : Except (List String) Registry × Log :=
  rounds manifest.names .base manifest

end Manifest

end PageCompiler.Component
