import PageCompiler.Json.Schema

/-!
# Component types

A component type is known by its name. Its category says whether it attaches to elements of the page
(visual) or runs without any (service), and its rules say what must hold wherever it is used.
-/

namespace PageCompiler.Component

/-- Whether a component attaches to elements. -/
inductive Category
  | visual
  | service
  deriving Repr, DecidableEq

/-- The name of a category. -/
def Category.name : Category → String
  | .visual => "visual"
  | .service => "service"

/-- What must hold where a component is used. -/
inductive Rule
  /-- Every listed attribute is present and not blank. -/
  | requiresAttributes (names : List String)
  /-- An element has one of the listed tags. -/
  | allowedTags (names : List String)
  deriving Repr, DecidableEq

/-- The name of a kind of rule. -/
def Rule.kind : Rule → String
  | .requiresAttributes _ => "requires_attributes"
  | .allowedTags _ => "allowed_tags"

/-- The names that a rule lists. -/
def Rule.names : Rule → List String
  | .requiresAttributes names => names
  | .allowedTags names => names

/-- A component type. -/
structure Descriptor where
  name : String
  category : Category
  rules : List Rule
  deriving Repr, DecidableEq

/-- The component attaches to elements. -/
def Descriptor.isVisual (descriptor : Descriptor) : Bool :=
  descriptor.category = .visual

/-! ## Descriptions as JSON -/

open Json

/-- A category by its name. -/
def Category.ofJson : Json → Checked Category
  | .text "visual" => .ok .visual
  | .text "service" => .ok .service
  | _ => Checked.fail .choice

/-- A rule: a record with its kind and a list of names. -/
def Rule.ofJson (origin : Origin) : Json → Checked Rule :=
  asKind origin "kind"
    [("requires_attributes", fun fields =>
        Rule.requiresAttributes <$> required "names" (asList asText) fields),
     ("allowed_tags", fun fields =>
        Rule.allowedTags <$> required "names" (asList asText) fields)]

/-- A list of rules. -/
def Rule.listOfJson (origin : Origin) : Json → Checked (List Rule) :=
  asList (Rule.ofJson origin)

/-- The name of a descriptor as a model, which reports of issues show. -/
def Descriptor.model : String := "ComponentDescriptor"

/-- A descriptor: a record with a name and, if it says so, category and rules. -/
def Descriptor.ofJson (origin : Origin) : Json → Checked Descriptor :=
  asModel fun fields =>
    ((required "name" asText fields).both
      ((optional "category" .service Category.ofJson fields).both
        (optional "rules" [] (Rule.listOfJson origin) fields))).map
      fun (name, category, rules) => ⟨name, category, rules⟩

end PageCompiler.Component
