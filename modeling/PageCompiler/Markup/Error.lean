import PageCompiler.Text.Decimal
import PageCompiler.Text.Quoted

/-!
# Markup that cannot be read

Almost any text is markup of some kind. Three things are not: a marked section `<![` without a
keyword, a marked section with a keyword nobody knows, and a decimal character reference in an
attribute value that is too long to be taken for a number.
-/

namespace PageCompiler.Markup

/-- Why a text is not markup. -/
inductive Error
  /-- After `<![` stands no keyword; the text from there on, as far as a message shows it. -/
  | sectionWithoutKeyword (excerpt : String)
  /-- After `<![` stands a keyword of no known section, with the blanks behind it. -/
  | unknownSection (keyword : String)
  /-- A decimal character reference with this many digits. -/
  | referenceTooLong (digits : Nat)
  deriving Repr, DecidableEq

/-- The error in words. -/
def Error.message : Error → String
  | .sectionWithoutKeyword excerpt => "expected name token at " ++ Text.quoted excerpt
  | .unknownSection keyword =>
    "unknown status keyword " ++ Text.quoted keyword ++ " in marked section"
  | .referenceTooLong digits => Text.tooManyDigits digits

end PageCompiler.Markup
