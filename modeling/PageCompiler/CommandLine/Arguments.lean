import PageCompiler.Build.Settings
import PageCompiler.Text.Decimal
import PageCompiler.Text.Quoted

/-!
# Command-line arguments

A command line names at most one source page, among options. An option has a long name, of which the
beginning is enough if no other option begins like it, and may have a short one. Its value follows
in the next argument, or in the same one: behind `=` after a long name, at once after a short one.
Short options without values may share an argument. `--` ends the options.

An argument that begins with a hyphen is an option unless it is just the hyphen, looks like a
negative number, or holds a blank; the latter two only if no option begins like it.

All arguments are first told apart (`classify`), which may already fail. Then they are taken from
left to right; the first source is the one, and whatever has no use is reported at the end.
-/

namespace PageCompiler.CommandLine

open Build (Settings)

/-- The options of the command line. -/
inductive Switch
  | help
  | target
  | output
  | exposedName
  | registry
  | define
  | verbose
  deriving Repr, DecidableEq

namespace Switch

/-- All options, in the order in which they are listed. -/
def all : List Switch :=
  [help, target, output, exposedName, registry, define, verbose]

/-- The names of an option, the short one first. -/
def names : Switch → List String
  | help => ["-h", "--help"]
  | target => ["--target"]
  | output => ["-o", "--output"]
  | exposedName => ["--exposed-name"]
  | registry => ["--registry"]
  | define => ["-D", "--define"]
  | verbose => ["-v", "--verbose"]

/-- The option takes a value. -/
def takesValue : Switch → Bool
  | help => false
  | verbose => false
  | _ => true

/-- The option as messages show it. -/
def shown (switch : Switch) : String :=
  "/".intercalate switch.names

end Switch

/-- Every name of an option, with the option. -/
def switchNames : List (String × Switch) :=
  Switch.all.flatMap fun switch => switch.names.map fun name => (name, switch)

/-- What the command line asks for. A value is a text; `--` in the place of a value, in the argument
of the option itself, is not one but an empty list of them. -/
structure Options where
  source : String
  target : Json
  output : Json
  exposedName : Json
  registry : Json
  defines : List Json
  verbose : Bool
  deriving Repr

/-- Nothing asked for. -/
def Options.none : Options :=
  ⟨Settings.defaultSource, .null, .null, .null, .null, [], false⟩

/-- What can be wrong with a command line. -/
inductive UsageError
  | ambiguous (argument : String) (candidates : List String)
  | noValue (switch : Switch)
  | unwantedValue (switch : Switch) (value : String)
  | unknownTarget (value : String)
  | unrecognized (arguments : List String)
  deriving Repr, DecidableEq

/-- The targets that can be asked for. -/
def targetNames : List String :=
  [Build.Target.js.name, Build.Target.native.name]

/-- The error in words. -/
def UsageError.message : UsageError → String
  | .ambiguous given candidates =>
    "ambiguous option: " ++ given ++ " could match " ++ ", ".intercalate candidates
  | .noValue switch => "argument " ++ switch.shown ++ ": expected one argument"
  | .unwantedValue switch value =>
    "argument " ++ switch.shown ++ ": ignored explicit argument " ++ Text.quoted value
  | .unknownTarget value =>
    "argument " ++ Switch.target.shown ++ ": invalid choice: " ++ Text.quoted value ++
      " (choose from " ++ ", ".intercalate (targetNames.map Text.quoted) ++ ")"
  | .unrecognized arguments => "unrecognized arguments: " ++ " ".intercalate arguments

/-! ## Telling arguments apart -/

/-- What an argument is. -/
inductive Word
  | plain (text : String)
  /-- `--`, behind which everything is plain. -/
  | separator
  /-- An option, with the value in the same argument if there is one. -/
  | switch (switch : Switch) (short : Bool) (value : Option String)
  /-- An option that nobody knows. -/
  | unknown (text : String)
  deriving Repr, DecidableEq

/-- What ends the options. -/
def separatorText : String := "--"

/-- The text looks like a negative number. A line feed may follow it. -/
def isNegativeNumber (text : List Char) : Bool :=
  let body := if text.getLast? == some '\n' then text.dropLast else text
  match body with
  | '-' :: digits =>
    let whole := digits.takeWhile Text.isDecimalDigit
    match digits.drop whole.length with
    | [] => !whole.isEmpty
    | '.' :: fraction => !fraction.isEmpty && fraction.all Text.isDecimalDigit
    | _ => false
  | _ => false

/-- The text before the first `=` and the text behind it, if there is one. -/
def splitEquals (text : List Char) : List Char × Option (List Char) :=
  match text.dropWhile (· != '=') with
  | [] => (text, none)
  | _ :: behind => (text.takeWhile (· != '='), some behind)

/-- The options that an argument may mean by an abbreviation or with a value at once behind a short
name: the name in full, the option, and the value. -/
def candidates (text : List Char) : List (String × Word) :=
  match text with
  | '-' :: '-' :: _ =>
    let split := splitEquals text
    (switchNames.filter fun entry => split.1.isPrefixOf entry.1.toList).map fun entry =>
      (entry.1, .switch entry.2 false (split.2.map String.ofList))
  | _ =>
    switchNames.filterMap fun entry =>
      if entry.1.toList = text.take 2 then
        some (entry.1, .switch entry.2 true (some (String.ofList (text.drop 2))))
      else if text.isPrefixOf entry.1.toList then
        some (entry.1, .switch entry.2 (entry.1.toList.take 2 != separatorText.toList) none)
      else none

/-- The name of an option is a short one. -/
def isShortName (name : List Char) : Bool :=
  name.length = 2

/-- What one argument before any `--` is. -/
def classify (argument : String) : Except UsageError Word :=
  let text := argument.toList
  let split := splitEquals text
  if text.head? ≠ some '-' then .ok (.plain argument)
  else
    match switchNames.lookup argument with
    | some switch => .ok (.switch switch (isShortName text) none)
    | none =>
      if text.length = 1 then .ok (.plain argument)
      else
        match split.2, switchNames.lookup (String.ofList split.1) with
        | some value, some switch =>
          .ok (.switch switch (isShortName split.1) (some (String.ofList value)))
        | _, _ =>
          match candidates text with
          | [(_, word)] => .ok word
          | [] =>
            if isNegativeNumber text || text.contains ' ' then .ok (.plain argument)
            else .ok (.unknown argument)
          | several => .error (.ambiguous argument (several.map Prod.fst))

/-- What all arguments are. -/
def classifyAll : List String → Except UsageError (List (String × Word))
  | [] => .ok []
  | argument :: rest =>
    if argument = separatorText then
      .ok ((argument, .separator) :: rest.map fun plain => (plain, .plain plain))
    else
      match classify argument, classifyAll rest with
      | .error e, _ => .error e
      | _, .error e => .error e
      | .ok word, .ok words => .ok ((argument, word) :: words)

/-! ## Taking arguments -/

/-- What was taken so far. -/
structure Taken where
  options : Options
  /-- The source has been given. -/
  hasSource : Bool
  /-- Arguments without a use. -/
  extras : List String
  deriving Repr

/-- Why taking arguments ends early. -/
inductive Interruption
  | helpWanted
  | error (error : UsageError)
  deriving Repr, DecidableEq

/-- The value that an argument gives an option. -/
def valueOf (argument : String) : Json :=
  if argument = separatorText then .list [] else .text argument

/-- Take an option with its value, if it has one. -/
def take (options : Options) (switch : Switch) (argument : String) : Except Interruption Options :=
  let value := valueOf argument
  match switch with
  | .help => .error .helpWanted
  | .target =>
    if targetNames.contains argument || argument = separatorText then
      .ok { options with target := value }
    else .error (.error (.unknownTarget argument))
  | .output => .ok { options with output := value }
  | .exposedName => .ok { options with exposedName := value }
  | .registry => .ok { options with registry := value }
  | .define => .ok { options with defines := options.defines ++ [value] }
  | .verbose => .ok { options with verbose := true }

/-- The options that share an argument: those without a value, then the last one with the value in
the argument, if any. -/
def unfold (switch : Switch) (short : Bool) :
    Option (List Char) → Except UsageError (List Switch × Switch × Option String)
  | none => .ok ([], switch, none)
  | some value =>
    if switch.takesValue then .ok ([], switch, some (String.ofList value))
    else if !short then .error (.unwantedValue switch (String.ofList value))
    else
      match value with
      | [] => .error (.unwantedValue switch "")
      | c :: rest =>
        match switchNames.lookup (String.ofList ['-', c]) with
        | none => .error (.unwantedValue switch (String.ofList value))
        | some next =>
          if rest.isEmpty then .ok ([switch], next, none)
          else
            (unfold next true (some rest)).map fun found =>
              (switch :: found.1, found.2.1, found.2.2)

/-- Take options without a value. -/
def takeFlags (options : Options) : List Switch → Except Interruption Options
  | [] => .ok options
  | switch :: rest =>
    match take options switch "" with
    | .error e => .error e
    | .ok options => takeFlags options rest

/-- Take the options of one argument, and the next argument too if the last of them needs it. Yields
the arguments left. -/
def takeSwitch (options : Options) (switch : Switch) (short : Bool) (value : Option String)
    (rest : List (String × Word)) : Except Interruption (Options × List (String × Word)) :=
  match unfold switch short (value.map String.toList) with
  | .error e => .error (.error e)
  | .ok (flags, last, given) =>
    let finish (value : String) (left : List (String × Word)) :=
      match takeFlags options flags with
      | .error e => .error e
      | .ok options => (take options last value).map fun options => (options, left)
    match given with
    | some value => finish value rest
    | none =>
      if last.takesValue then
        match rest with
        | (value, .plain _) :: left => finish value left
        | _ => .error (.error (.noValue last))
      else finish "" rest

/-- Take what follows the last option: the source, if it has not been given, and extras. -/
def takeRest (taken : Taken) (rest : List (String × Word)) : Taken :=
  if taken.hasSource then { taken with extras := taken.extras ++ rest.map Prod.fst }
  else
    let source (value : String) (left : List (String × Word)) : Taken :=
      let left := match left with
        | (_, .separator) :: left => left
        | left => left
      { options := { taken.options with source := value }
        hasSource := true
        extras := taken.extras ++ left.map Prod.fst }
    match rest with
    | (_, .separator) :: (value, _) :: left => source value left
    | (_, .separator) :: [] => taken
    | (value, _) :: left => source value left
    | [] => taken

/-- The word is an option. -/
def Word.isOption : Word → Bool
  | .switch .. => true
  | .unknown _ => true
  | _ => false

/-- Take arguments from left to right. Every step takes at least one argument, so `fuel` arguments
are enough. -/
def takeAll (fuel : Nat) (taken : Taken) (words : List (String × Word)) :
    Except Interruption Taken :=
  match fuel with
  | 0 => .ok taken
  | fuel + 1 =>
    if !words.any fun word => word.2.isOption then .ok (takeRest taken words)
    else
      match words with
      | [] => .ok taken
      | (text, word) :: rest =>
        match word with
        | .switch switch short value =>
          match takeSwitch taken.options switch short value rest with
          | .error e => .error e
          | .ok (options, left) => takeAll fuel { taken with options } left
        | .unknown _ => takeAll fuel { taken with extras := taken.extras ++ [text] } rest
        | _ =>
          if taken.hasSource then
            takeAll fuel { taken with extras := taken.extras ++ [text] } rest
          else
            let options := { taken.options with source := text }
            takeAll fuel { taken with options, hasSource := true } rest

/-- The options that a command line asks for. -/
def parse (arguments : List String) : Except Interruption Options :=
  match classifyAll arguments with
  | .error e => .error (.error e)
  | .ok words =>
    match takeAll (words.length + 1) ⟨Options.none, false, []⟩ words with
    | .error e => .error e
    | .ok taken =>
      if taken.extras.isEmpty then .ok taken.options
      else .error (.error (.unrecognized taken.extras))

/-- The fields of the settings that the options give. -/
def Options.fields (options : Options) : Keyed Json :=
  [("source", .text options.source), ("target", options.target), ("output", options.output),
   ("exposed_name", options.exposedName), ("registry", options.registry),
   ("defines", .list options.defines)]

/-- The value is a text. -/
def isText : Json → Bool
  | .text _ => true
  | _ => false

/-- Every flag that is to be set is a text. -/
def Options.definesTexts (options : Options) : Bool :=
  options.defines.all isText

/-! ## Usage and help -/

/-- The name of the program. -/
def programName : String := "slpc"

/-- How the program is called. -/
def usage : String :=
  "usage: slpc [-h] [--target \x7bjs,native\x7d] [-o OUTPUT]\n" ++
  "            [--exposed-name EXPOSED_NAME] [--registry REGISTRY] [-D DEFINE]\n" ++
  "            [-v]\n" ++
  "            [source]\n"

/-- What the program does and what its arguments mean. -/
def helpText : String :=
  usage ++
  "\n" ++
  "Build an application from a markup document\n" ++
  "\n" ++
  "positional arguments:\n" ++
  "  source                Source document (default: index.html)\n" ++
  "\n" ++
  "options:\n" ++
  "  -h, --help            show this help message and exit\n" ++
  "  --target \x7bjs,native\x7d  Output target\n" ++
  "  -o OUTPUT, --output OUTPUT\n" ++
  "                        Program output path (e.g., bin/index.js)\n" ++
  "  --exposed-name EXPOSED_NAME\n" ++
  "                        Public entry symbol for JS output\n" ++
  "  --registry REGISTRY   Component manifest (JSON)\n" ++
  "  -D DEFINE, --define DEFINE\n" ++
  "                        Set a compile-time flag (repeatable)\n" ++
  "  -v, --verbose         Debug logging\n"

/-- What is said about a command line that is not understood. -/
def usageReport (error : UsageError) : String :=
  usage ++ programName ++ ": error: " ++ error.message ++ "\n"

end PageCompiler.CommandLine
