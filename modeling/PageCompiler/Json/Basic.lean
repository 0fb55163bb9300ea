import PageCompiler.Keyed

/-!
# JSON values

The data model of JSON. A record keeps its entries as they were written, one key possibly several
times; whoever looks a key up takes the last. Numbers are whole, or else kept as they are spelled:
nothing here computes with a fraction.
-/

namespace PageCompiler

/-- A JSON value. -/
inductive Json
  | null
  | bool (value : Bool)
  | whole (value : Int)
  /-- A number with a fraction or an exponent, an infinity, or no number at all. -/
  | real (spelling : String)
  | text (value : String)
  | list (items : List Json)
  | record (entries : List (String × Json))
  deriving Repr, Inhabited

namespace Json

/-- A text, or null for none. -/
def ofText? : Option String → Json
  | none => null
  | some value => text value

/-- A record of texts. -/
def ofTexts (entries : Keyed String) : Json :=
  record (entries.map fun entry => (entry.1, text entry.2))

end Json

end PageCompiler
