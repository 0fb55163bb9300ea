import PageCompiler.Keyed
import PageCompiler.Log
import PageCompiler.Text.Blank
import PageCompiler.Text.Case

/-!
# Environment files

A file `.env` beside or above the current directory sets variables. A line binds a name to a value:
`export` may stand in front, the name may be in single quotes, blanks may surround the `=`, and a
comment may follow. A value in quotes may span lines and has escapes; any other runs to the end of
the line or to a comment. What does not fit is skipped to the end of its line with a warning.

Values may refer to other variables by name in braces behind a dollar sign, with a default behind
`:-`. The environment is asked first and then the bindings further up. Variables that the
environment already has keep their values.
-/

namespace PageCompiler

/-- Variables and their values. -/
abbrev Environment := Keyed String

namespace EnvironmentFile

/-- The name of an environment file. -/
def fileName : String := ".env"

/-- A name and its value, if it has one. -/
structure Binding where
  name : String
  value : Option String
  deriving Repr, DecidableEq

/-- What a statement comes to. -/
inductive Statement
  | binding (binding : Binding)
  | empty
  | malformed
  deriving Repr, DecidableEq

/-! ## Reading a statement -/

/-- A blank that does not end the line. -/
def isInnerBlank (c : Char) : Bool :=
  Text.isBlank c && c != '\n' && c != '\r'

/-- A character that ends a line. -/
def isLineEnd (c : Char) : Bool :=
  c == '\n' || c == '\r'

/-- Without the blanks in front that do not end the line. -/
def skipInner (text : List Char) : List Char :=
  text.dropWhile isInnerBlank

/-- Without the end of a line in front. -/
def dropLineEnd : List Char → List Char
  | '\r' :: '\n' :: rest => rest
  | '\n' :: rest => rest
  | '\r' :: rest => rest
  | text => text

/-- The text behind the line that it is in. -/
def skipLine (text : List Char) : List Char :=
  dropLineEnd (text.dropWhile fun c => !isLineEnd c)

/-- Without a comment in front. -/
def skipComment (text : List Char) : List Char :=
  match skipInner text with
  | '#' :: rest => rest.dropWhile fun c => !isLineEnd c
  | _ => text

/-- The text behind the end of the line, if nothing but blanks is left on it. -/
def endOfLine? (text : List Char) : Option (List Char) :=
  match skipInner text with
  | [] => some []
  | c :: rest => if isLineEnd c then some (dropLineEnd (c :: rest)) else none

/-- The word that may stand before a binding. -/
def exportWord : String := "export"

/-- Without `export` and the blanks behind it. -/
def skipExport (text : List Char) : List Char :=
  let word := exportWord.toList
  if word.isPrefixOf text then
    let behind := text.drop word.length
    match behind with
    | c :: _ => if isInnerBlank c then skipInner behind else text
    | [] => text
  else text

/-- The text in quotes and what follows, read behind the opening quote. A backslash takes the
character behind it along, so that a quote there does not close. -/
def quotedValue? (quote : Char) : List Char → Option (List Char × List Char)
  | [] => none
  | [c] => if c = quote then some ([], []) else none
  | c :: d :: rest =>
    if c = quote then some ([], d :: rest)
    else if c = '\\' then
      (quotedValue? quote rest).map fun found => (c :: d :: found.1, found.2)
    else (quotedValue? quote (d :: rest)).map fun found => (c :: found.1, found.2)

/-- The characters that a backslash stands before, in double quotes. -/
def doubleEscape? : Char → Option Char
  | '\\' => some '\\'
  | '\'' => some '\''
  | '"' => some '"'
  | 'a' => some '\x07'
  | 'b' => some '\x08'
  | 'f' => some '\x0c'
  | 'n' => some '\n'
  | 'r' => some '\r'
  | 't' => some '\t'
  | 'v' => some '\x0b'
  | _ => none

/-- The characters that a backslash stands before, in single quotes. -/
def singleEscape? : Char → Option Char
  | '\\' => some '\\'
  | '\'' => some '\''
  | _ => none

/-- The text with its escapes replaced. A backslash before any other character is a backslash. -/
def unescape (escape? : Char → Option Char) : List Char → List Char
  | [] => []
  | [c] => [c]
  | c :: d :: rest =>
    if c = '\\' then
      match escape? d with
      | some e => e :: unescape escape? rest
      | none => c :: unescape escape? (d :: rest)
    else c :: unescape escape? (d :: rest)

/-- The part of a bare value before a comment, which blanks set off. -/
def beforeComment : List Char → List Char
  | [] => []
  | c :: rest =>
    if Text.isBlank c && (rest.dropWhile Text.isBlank).head? == some '#' then []
    else c :: beforeComment rest

/-- The value behind `=` and what follows it. A number sign that blanks set off from the `=` begins
a comment. -/
def readValue? (text : List Char) : Option (List Char × List Char) :=
  let start := skipInner text
  match start with
  | [] => some ([], [])
  | c :: rest =>
    if c = '\'' then
      (quotedValue? c rest).map fun found => (unescape singleEscape? found.1, found.2)
    else if c = '"' then
      (quotedValue? c rest).map fun found => (unescape doubleEscape? found.1, found.2)
    else if isLineEnd c then some ([], start)
    else if c = '#' ∧ start.length < text.length then some ([], start)
    else
      some (Text.dropBlankEnd (beforeComment (start.takeWhile fun c => !isLineEnd c)),
        start.dropWhile fun c => !isLineEnd c)

/-- A character of a name without quotes. -/
def isNameChar (c : Char) : Bool :=
  !Text.isBlank c && c != '=' && c != '#'

/-- The name at the front and what follows it. A comment has none. -/
def readName? (text : List Char) : Option (Option (List Char) × List Char) :=
  match text with
  | '#' :: _ => some (none, text)
  | '\'' :: rest =>
    match rest.takeWhile (· != '\''), rest.dropWhile (· != '\'') with
    | c :: name, _ :: after => some (some (c :: name), after)
    | _, _ => none
  | _ =>
    match text.takeWhile isNameChar with
    | [] => none
    | name => some (some name, text.dropWhile isNameChar)

/-- The rest of a line behind a name and its value. -/
def finishLine (name : Option (List Char)) (value : Option (List Char)) (rest : List Char) :
    Statement × List Char :=
  match endOfLine? (skipComment rest) with
  | none => (.malformed, skipLine (skipComment rest))
  | some after =>
    match name with
    | none => (.empty, after)
    | some name => (.binding ⟨String.ofList name, value.map String.ofList⟩, after)

/-- Reads one statement off a text and yields what follows it. -/
def readStatement (text : List Char) : Statement × List Char :=
  match text.dropWhile Text.isBlank with
  | [] => (.empty, [])
  | start =>
    let start := skipExport start
    match readName? start with
    | none => (.malformed, skipLine start)
    | some (name, behindName) =>
      match skipInner behindName with
      | '=' :: behindSign =>
        match readValue? behindSign with
        | none => (.malformed, skipLine (skipInner behindSign))
        | some (value, rest) => finishLine name (some value) rest
      | rest => finishLine name none rest

/-! ## Reading a file -/

/-- How many lines a text begins beyond its first. -/
def lineEnds (text : List Char) : Nat :=
  text.count '\n'

/-- The bindings of a text whose first line has a number, and the numbers of the lines with
malformed statements. Every statement takes at least one character, so `fuel` characters are enough.
-/
def readStatements (fuel line : Nat) (text : List Char) : List Binding × List Nat :=
  match fuel, text with
  | 0, _ => ([], [])
  | _, [] => ([], [])
  | fuel + 1, text =>
    let (statement, rest) := readStatement text
    let later := readStatements fuel (line + lineEnds (text.take (text.length - rest.length))) rest
    match statement with
    | .binding binding => (binding :: later.1, later.2)
    | .empty => later
    | .malformed => (later.1, line :: later.2)

/-- The mark that may stand at the front of a file. -/
def byteOrderMark : Char := '\uFEFF'

/-- The bindings of a file and what there is to say about its malformed statements. -/
def readBindings (text : String) : List Binding × Log :=
  let chars := match text.toList with
    | c :: rest => if c = byteOrderMark then rest else c :: rest
    | [] => []
  let found := readStatements chars.length 1 chars
  (found.1, found.2.map fun line =>
    ⟨.warning, "python-dotenv could not parse statement starting at line " ++ toString line⟩)

/-! ## Variables in values -/

/-- A name in braces, read behind `$` and the brace: the name, the default behind `:-` if there is
one, and what follows the closing brace. -/
def readReference? (text : List Char) : Option (List Char × Option (List Char) × List Char) :=
  let isName (c : Char) := c != '\x7d' && c != ':'
  let name := text.takeWhile isName
  match text.dropWhile isName with
  | '\x7d' :: rest => some (name, none, rest)
  | ':' :: '-' :: rest =>
    match rest.dropWhile (· != '\x7d') with
    | _ :: after => some (name, some (rest.takeWhile (· != '\x7d')), after)
    | [] => none
  | _ => none

/-- The text with its variables replaced by what `value?` gives; one without a value gives nothing,
and one that is unknown its default. The first `skip` characters belong to a variable already
replaced. -/
def expandFrom (value? : String → Option (Option String)) : Nat → List Char → List Char
  | _, [] => []
  | skip + 1, _ :: rest => expandFrom value? skip rest
  | 0, c :: rest =>
    match c, rest with
    | '$', '\x7b' :: inner =>
      match readReference? inner with
      | none => c :: expandFrom value? 0 rest
      | some (name, default, after) =>
        let chars := match value? (String.ofList name) with
          | some value => (value.getD "").toList
          | none => default.getD []
        chars ++ expandFrom value? (rest.length - after.length) rest
    | _, _ => c :: expandFrom value? 0 rest

/-- The value of each binding with its variables replaced. A name may be bound several times; each
binding sees those before it. -/
def resolve (environment : Environment) (known : Keyed (Option String)) :
    List Binding → Keyed (Option String)
  | [] => known
  | binding :: rest =>
    let value? (name : String) : Option (Option String) :=
      match environment.get? name with
      | some value => some (some value)
      | none => known.get? name
    let value := binding.value.map fun value =>
      String.ofList (expandFrom value? 0 value.toList)
    resolve environment (known.put binding.name value) rest

/-- The variables that the values of some bindings refer to, and those that are bound. -/
def mentionedNames (bindings : List Binding) : List String :=
  bindings.flatMap fun binding =>
    binding.name ::
      ((Text.pieces (· == '$') (binding.value.getD "").toList).drop 1).map fun piece =>
        String.ofList ((piece.drop 1).takeWhile fun c => c != '\x7d' && c != ':')

/-! ## Loading -/

/-- Why a binding cannot become a variable. -/
inductive Refusal
  | nul
  | name
  deriving Repr, DecidableEq

/-- The refusal in words. -/
def Refusal.message : Refusal → String
  | .nul => "embedded null byte"
  | .name => "illegal environment variable name"

/-- What stands in the way of a variable, if anything: a name may not hold `=`, and neither name nor
value the character NUL. -/
def refusal? (name value : String) : Option Refusal :=
  if name.toList.contains '\x00' || value.toList.contains '\x00' then some .nul
  else if name.toList.contains '=' then some .name
  else none

/-- The environment with the variables of some resolved bindings that it does not have yet. -/
def load (environment : Environment) : Keyed (Option String) → Except Refusal Environment
  | [] => .ok environment
  | (name, value) :: rest =>
    match value with
    | none => load environment rest
    | some value =>
      if environment.has name then load environment rest
      else
        match refusal? name value with
        | some refusal => .error refusal
        | none => load (environment.put name value) rest

/-- The variable that turns environment files off. -/
def disablingVariable : String := "PYTHON_DOTENV_DISABLED"

/-- The values of that variable that do so, in any case. -/
def disablingValues : List String :=
  ["1", "true", "t", "yes", "y"]

/-- A text is one of some small letters when case is ignored. -/
def foldsToText : List Char → List Char → Bool
  | [], [] => true
  | letter :: rest, c :: text => Text.foldsTo letter c && foldsToText rest text
  | _, _ => false

/-- Environment files are turned off. -/
def isDisabled (environment : Environment) : Bool :=
  match environment.get? disablingVariable with
  | none => false
  | some value => disablingValues.any fun known => foldsToText known.toList value.toList

/-- What is said when environment files are turned off. -/
def disabledMessage : String :=
  "python-dotenv: .env loading disabled by " ++ disablingVariable ++ " environment variable"

end EnvironmentFile

end PageCompiler
