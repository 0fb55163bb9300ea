import PageCompiler.Text.Cut

/-!
# Class tags

A visual component finds its elements by a word of their class attribute: the component's short
name, without the package in front. Where two declared components share a short name, both go by
their full names.
-/

namespace PageCompiler.Component

/-- The name without its package: what stands behind the last point. -/
def shortName (name : String) : String :=
  match Text.splitBeforeLast? (· == '.') name.toList with
  | some (_, after) => String.ofList (after.drop 1)
  | none => name

/-- The word by which a component finds its elements, given all declared names. -/
def classTag (name : String) (declared : List String) : String :=
  if declared.any fun other => other != name && shortName other == shortName name then name
  else shortName name

end PageCompiler.Component
