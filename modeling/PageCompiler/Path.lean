import PageCompiler.Text.Cut

/-!
# Paths

A path is a root, empty for a relative path, and names from it down. Repeated slashes and names that
mean "here" say nothing and are left out, so that two texts of one path are shown alike; a name that
means "up" is kept. A path may begin with exactly two slashes, which are not one.

`directoryAndBase` cuts an output path for another purpose: at the last separator of either kind and
at the last point behind it, to put another file beside the output.
-/

namespace PageCompiler

/-- A path: where it starts and the names from there down. -/
structure Path where
  root : String
  names : List String
  deriving Repr, DecidableEq

namespace Path

/-- The name that means the directory itself. -/
def here : String := "."

/-- The name that means the directory above. -/
def up : String := ".."

/-- The root of a path that begins with so many slashes. -/
def rootOf (slashes : Nat) : String :=
  if slashes = 0 then "" else if slashes = 2 then "//" else "/"

/-- The path that a text spells. -/
def ofText (text : String) : Path :=
  let chars := text.toList
  { root := rootOf (chars.takeWhile (· == '/')).length
    names := ((Text.pieces (· == '/') chars).map String.ofList).filter fun name =>
      name ≠ "" ∧ name ≠ here }

/-- The path as a text. -/
def text (path : Path) : String :=
  if path.root = "" ∧ path.names = [] then here
  else path.root ++ "/".intercalate path.names

/-- The path without its last name. -/
def parent (path : Path) : Path :=
  { path with names := path.names.dropLast }

end Path

/-! ## Output paths -/

/-- A character that separates directories, on one system or another. -/
def isSeparator (c : Char) : Bool :=
  c == '/' || c == '\\'

/-- The directory of an output path, with its separator, and the name of the file without its
extension. -/
def directoryAndBase (output : String) : String × String :=
  let chars := output.toList
  let name := (chars.reverse.takeWhile fun c => !isSeparator c).reverse
  let directory := (chars.reverse.dropWhile fun c => !isSeparator c).reverse
  let base := match Text.splitBeforeLast? (· == '.') name with
    | some (before, _) => before
    | none => name
  (String.ofList directory, String.ofList base)

/-- The file beside an output path that holds the page. -/
def pageBeside (output : String) : Path :=
  .ofText ((directoryAndBase output).1 ++ (directoryAndBase output).2 ++ ".html")

end PageCompiler
