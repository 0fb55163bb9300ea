import PageCompiler.Json.Basic

/-!
# Checking JSON values against a shape

A check turns a JSON value into a value of the domain or lists everything that is wrong with it.
Each issue says what was expected and where: a path of field names and list positions from the value
down. Checks of several fields run all of them (`Checked.both`), so that one report holds every
issue, in the order of the fields.

Where a value is one of several kinds of record, the name of the kind is part of the path.
-/

namespace PageCompiler.Json

/-- What a value was expected to be. -/
inductive Expected
  | present
  | text
  | list
  | mapping
  | set
  | path
  | choice
  | model
  /-- A record of one of several kinds, when the value was not read from a text. -/
  | attributes
  /-- A record that names its kind. -/
  | kindName
  /-- A record that names a known kind. -/
  | knownKind
  /-- A text that is JSON at all. -/
  | json
  deriving Repr, DecidableEq

/-- One step of a path into a value. -/
inductive Place
  | field (name : String)
  | item (index : Nat)
  deriving Repr, DecidableEq

/-- Something wrong with a value. -/
structure Issue where
  expected : Expected
  location : List Place
  deriving Repr, DecidableEq

/-- A value of the domain, or the issues that prevent it. -/
abbrev Checked (α : Type) := Except (List Issue) α

/-- Whether the value was read from a text or handed over as data. -/
inductive Origin
  | text
  | data
  deriving Repr, DecidableEq

/-- How many issues there are with a model, in words. -/
def summary (model : String) (issues : List Issue) : String :=
  toString issues.length ++ " validation error" ++ (if issues.length = 1 then "" else "s") ++
    " for " ++ model

namespace Checked

variable {α β : Type}

/-- The value is not what was expected. -/
def fail (expected : Expected) : Checked α :=
  .error [⟨expected, []⟩]

/-- The same issues, one step further down. -/
def under (place : Place) (checked : Checked α) : Checked α :=
  checked.mapError fun issues => issues.map fun issue =>
    { issue with location := place :: issue.location }

/-- Two checks, with the issues of both. -/
def both (first : Checked α) (second : Checked β) : Checked (α × β) :=
  match first, second with
  | .ok a, .ok b => .ok (a, b)
  | .ok _, .error issues => .error issues
  | .error issues, .ok _ => .error issues
  | .error issues, .error more => .error (issues ++ more)

/-- A check for every item from position `index` on. -/
def items (check : α → Checked β) (index : Nat) : List α → Checked (List β)
  | [] => .ok []
  | item :: rest =>
    ((under (.item index) (check item)).both (items check (index + 1) rest)).map fun pair =>
      pair.1 :: pair.2

/-- A check for the value of every entry. -/
def entries (check : α → Checked β) : List (String × α) → Checked (List (String × β))
  | [] => .ok []
  | (key, value) :: rest =>
    ((under (.field key) (check value)).both (entries check rest)).map fun pair =>
      (key, pair.1) :: pair.2

end Checked

open Checked

/-- A text. -/
def asText : Json → Checked String
  | .text value => .ok value
  | _ => fail .text

/-- A text or null. -/
def asText? : Json → Checked (Option String)
  | .null => .ok none
  | value => some <$> asText value

/-- A list, each item of which passes a check. -/
def asList {α : Type} (check : Json → Checked α) : Json → Checked (List α)
  | .list values => items check 0 values
  | _ => fail .list

/-- A record of texts. Every entry is checked, also one whose key comes again. -/
def asTexts : Json → Checked (Keyed String)
  | .record values => Keyed.ofPairs <$> entries asText values
  | _ => fail .mapping

/-- A record with certain fields. -/
def asModel {α : Type} (check : Keyed Json → Checked α) : Json → Checked α
  | .record values => check (Keyed.ofPairs values)
  | _ => fail .model

/-- A field that must be there. -/
def required {α : Type} (name : String) (check : Json → Checked α) (fields : Keyed Json) :
    Checked α :=
  under (.field name) <|
    match fields.get? name with
    | some value => check value
    | none => fail .present

/-- A field that may be left out. -/
def optional {α : Type} (name : String) (default : α) (check : Json → Checked α)
    (fields : Keyed Json) : Checked α :=
  match fields.get? name with
  | some value => under (.field name) (check value)
  | none => .ok default

/-- A record whose field `tag` names its kind; each kind has its own check. -/
def asKind {α : Type} (origin : Origin) (tag : String)
    (kinds : List (String × (Keyed Json → Checked α))) : Json → Checked α
  | .record values =>
    let fields := Keyed.ofPairs values
    match fields.get? tag with
    | none => fail .kindName
    | some (.text kind) =>
      match kinds.lookup kind with
      | some check => under (.field kind) (check fields)
      | none => fail .knownKind
    | some _ => fail .knownKind
  | _ =>
    match origin with
    | .text => fail .mapping
    | .data => fail .attributes

end PageCompiler.Json
