import PageCompiler.Json.Basic
import PageCompiler.Text.Quoted

/-!
# Printing JSON

Two forms. The *indented* form writes one item or entry a line and leaves characters as they are,
save those that a JSON text must escape. The *compact* form writes one line of printable ASCII: any
other character is escaped by its UTF-16 units, so that the result can stand inside a script.
-/

namespace PageCompiler.Json

/-- The letter that escapes a character, if it has one. -/
def escapeLetter? : Char → Option Char
  | '"' => some '"'
  | '\\' => some '\\'
  | '\x08' => some 'b'
  | '\x0c' => some 'f'
  | '\n' => some 'n'
  | '\r' => some 'r'
  | '\t' => some 't'
  | _ => none

/-- A UTF-16 unit as an escape. -/
def unitEscape (n : Nat) : List Char :=
  '\\' :: 'u' :: Text.hexDigits 4 n

/-- A character as it stands in an indented text: control characters are escaped. -/
def plainChar (c : Char) : List Char :=
  match escapeLetter? c with
  | some letter => ['\\', letter]
  | none => if c.toNat < 0x20 then unitEscape c.toNat else [c]

/-- A character as it stands in a compact text: all but printable ASCII is escaped. -/
def asciiChar (c : Char) : List Char :=
  match escapeLetter? c with
  | some letter => ['\\', letter]
  | none =>
    if 0x20 ≤ c.toNat ∧ c.toNat < 0x7F then [c]
    else if c.toNat < 0x10000 then unitEscape c.toNat
    else
      unitEscape (0xD800 + (c.toNat - 0x10000) / 0x400) ++
        unitEscape (0xDC00 + (c.toNat - 0x10000) % 0x400)

/-- A text between quotes, each character spelled by `spell`. -/
def quote (spell : Char → List Char) (value : String) : String :=
  String.ofList ('"' :: value.toList.flatMap spell ++ ['"'])

/-- A text in the compact form. -/
def compactText (value : String) : String :=
  quote asciiChar value

/-- A record of texts in the compact form, with a blank behind each comma and colon. -/
def compactTexts (entries : Keyed String) : String :=
  "\x7b" ++ ", ".intercalate
    (entries.map fun entry => compactText entry.1 ++ ": " ++ compactText entry.2) ++ "\x7d"

/-- A line break and the blanks before an item at some depth. -/
def breakLine (indent depth : Nat) : String :=
  String.ofList ('\n' :: List.replicate (indent * depth) ' ')

/-- Items between brackets, each on a line of its own. -/
def bracket (indent depth : Nat) (opening closing : String) (items : List String) : String :=
  if items.isEmpty then opening ++ closing
  else
    opening ++ breakLine indent (depth + 1) ++
      ("," ++ breakLine indent (depth + 1)).intercalate items ++ breakLine indent depth ++ closing

mutual

/-- A value in the indented form, inside `depth` lists and records. -/
def indentedAt (indent depth : Nat) : Json → String
  | .null => "null"
  | .bool value => if value then "true" else "false"
  | .whole value => toString value
  | .real spelling => spelling
  | .text value => quote plainChar value
  | .list items => bracket indent depth "[" "]" (indentedItems indent (depth + 1) items)
  | .record entries =>
    bracket indent depth "\x7b" "\x7d" (indentedEntries indent (depth + 1) entries)

/-- The items of a list in the indented form. -/
def indentedItems (indent depth : Nat) : List Json → List String
  | [] => []
  | item :: rest => indentedAt indent depth item :: indentedItems indent depth rest

/-- The entries of a record in the indented form. -/
def indentedEntries (indent depth : Nat) : List (String × Json) → List String
  | [] => []
  | (key, value) :: rest =>
    (quote plainChar key ++ ": " ++ indentedAt indent depth value) ::
      indentedEntries indent depth rest

end

/-- A value in the indented form. -/
def indented (indent : Nat) (value : Json) : String :=
  indentedAt indent 0 value

end PageCompiler.Json
