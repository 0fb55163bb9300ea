import PageCompiler.Component.Descriptor
import PageCompiler.Log

/-!
# The component registry

The registry maps names to component types. It always knows the base of all visual types. A type
that extends another has the category of the one it extends, and parents come first, so that looking
at the parent is enough.
-/

namespace PageCompiler.Component

/-- The type that every visual type goes back to. -/
def visualBase : String := "slplayer.ui.DisplayObject"

/-- The known component types. -/
structure Registry where
  descriptors : Keyed Descriptor
  deriving Repr, DecidableEq

namespace Registry

/-- Only the visual base type. -/
def base : Registry :=
  ⟨[(visualBase, ⟨visualBase, .visual, []⟩)]⟩

/-- Make a type known; one of the same name is replaced. -/
def register (registry : Registry) (descriptor : Descriptor) : Registry :=
  ⟨registry.descriptors.put descriptor.name descriptor⟩

/-- The type with a name. -/
def resolve (registry : Registry) (name : String) : Option Descriptor :=
  registry.descriptors.get? name

/-- A type with the name is known. -/
def knows (registry : Registry) (name : String) : Bool :=
  registry.descriptors.has name

/-- The category of a type that extends `parent`: a type without a parent, or with an unknown one,
is a service. -/
def categoryBelow (registry : Registry) (parent : Option String) : Category :=
  match parent with
  | none => .service
  | some parent =>
    if parent = visualBase then .visual
    else
      match registry.resolve parent with
      | none => .service
      | some descriptor => descriptor.category

/-- What there is to say about a parent: nothing, unless it is unknown. -/
def parentLog (registry : Registry) (parent : Option String) : Log :=
  match parent with
  | none => []
  | some parent =>
    if parent = visualBase || registry.knows parent then []
    else [⟨.debug, "Parent type " ++ parent ++ " is not registered, treating as service"⟩]

/-- The descriptor of a type that extends `parent`. -/
def descriptorBelow (registry : Registry) (name : String) (parent : Option String)
    (rules : List Rule) : Descriptor :=
  ⟨name, registry.categoryBelow parent, rules⟩

/-- Make a type known that extends `parent`. -/
def registerBelow (registry : Registry) (name : String) (parent : Option String)
    (rules : List Rule) : Registry :=
  registry.register (registry.descriptorBelow name parent rules)

/-- Make several types known, in order. -/
def ofDescriptors (descriptors : List Descriptor) : Registry :=
  descriptors.foldl register base

end Registry

end PageCompiler.Component
