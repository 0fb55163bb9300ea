import PageCompiler.Json.Basic
import PageCompiler.Text.Decimal

/-!
# Reading JSON

`read` reads a whole text as one JSON value, or says what is wrong and where. Beyond the standard it
takes `NaN`, `Infinity` and `-Infinity` for numbers. It refuses a byte-order mark, an unescaped
control character in a text, and a whole number of more than 4300 digits. Lists and records may be
nested as deep as the caller allows; those that hold nothing do not count.

There are two manners of reading, which differ in escapes that stand for half of a surrogate pair
and in numbers that are not whole (`Manner`).

A reader works on the characters that are left. It reports a fault by how many characters were left
where the fault is, from which `read` computes the position.
-/

namespace PageCompiler.Json

/-- How strictly a text is read. -/
inductive Manner
  /-- Half of a surrogate pair may not stand alone, and the limit on digits holds for those before a
  fraction or an exponent, too. -/
  | strict
  /-- Half of a surrogate pair reads as the replacement character, and only whole numbers may not be
  too long. -/
  | tolerant
  deriving Repr, DecidableEq

/-- What is wrong with a text that should be JSON. -/
inductive Fault
  | value
  | key
  | colon
  | comma
  | extra
  | byteOrderMark
  | controlCharacter
  | openText
  | escape
  | unicodeEscape
  | halfPair
  | longNumber (digits : Nat)
  | depth
  deriving Repr, DecidableEq

/-- A fault and its position, counted in characters from zero. -/
structure Error where
  fault : Fault
  position : Nat
  deriving Repr, DecidableEq

/-- The fault in words. -/
def Fault.message : Fault → String
  | .value => "Expecting value"
  | .key => "Expecting property name enclosed in double quotes"
  | .colon => "Expecting ':' delimiter"
  | .comma => "Expecting ',' delimiter"
  | .extra => "Extra data"
  | .byteOrderMark => "Unexpected UTF-8 BOM (decode using utf-8-sig)"
  | .controlCharacter => "Invalid control character at"
  | .openText => "Unterminated string starting at"
  | .escape => "Invalid \\escape"
  | .unicodeEscape => "Invalid \\uXXXX escape"
  | .halfPair => "Unpaired surrogate"
  | .longNumber digits => Text.tooManyDigits digits
  | .depth => "Nesting too deep"

/-- The fault with its line and column in the text, both counted from one. A number that is too long
is reported without them. -/
def Error.message (error : Error) (text : String) : String :=
  let before := text.toList.take error.position
  let line := before.count '\n' + 1
  let column := (before.reverse.takeWhile (· != '\n')).length + 1
  match error.fault with
  | .longNumber digits => Text.tooManyDigits digits
  | fault =>
    fault.message ++ ": line " ++ toString line ++ " column " ++ toString column ++
      " (char " ++ toString error.position ++ ")"

/-- What a reader yields: a result and the characters left, or a fault and how many were left. -/
abbrev Reading (α : Type) := Except (Fault × Nat) (α × List Char)

/-- The blanks between the parts of a JSON text. -/
def isSpace (c : Char) : Bool :=
  c == ' ' || c == '\t' || c == '\n' || c == '\r'

/-- Without the blanks in front. -/
def skipSpace (text : List Char) : List Char :=
  text.dropWhile isSpace

/-! ## Texts -/

/-- The number that a hexadecimal digit stands for. -/
def hexValue? (c : Char) : Option Nat :=
  if '0' ≤ c ∧ c ≤ '9' then some (c.toNat - '0'.toNat)
  else if 'a' ≤ c ∧ c ≤ 'f' then some (c.toNat - 'a'.toNat + 10)
  else if 'A' ≤ c ∧ c ≤ 'F' then some (c.toNat - 'A'.toNat + 10)
  else none

/-- The number that the four hexadecimal digits in front spell. -/
def hexQuad? : List Char → Option Nat
  | a :: b :: c :: d :: _ => do
    return (((← hexValue? a) * 16 + (← hexValue? b)) * 16 + (← hexValue? c)) * 16 + (← hexValue? d)
  | _ => none

/-- The first half of a surrogate pair. -/
def isHighHalf (n : Nat) : Bool :=
  0xD800 ≤ n && n < 0xDC00

/-- The second half of a surrogate pair. -/
def isLowHalf (n : Nat) : Bool :=
  0xDC00 ≤ n && n < 0xE000

/-- The code point of a surrogate pair. -/
def joinHalves (high low : Nat) : Nat :=
  0x10000 + (high - 0xD800) * 0x400 + (low - 0xDC00)

/-- The number of an escape `\uXXXX`, read behind the `u`. The text may not end with it. -/
def escapeNumber (text : List Char) : Except (Fault × Nat) Nat :=
  match hexQuad? text with
  | some n => if (text.drop 4).isEmpty then .error (.unicodeEscape, text.length + 1) else .ok n
  | none => .error (.unicodeEscape, text.length + 1)

/-- What half of a surrogate pair reads as when it stands alone. -/
def loneHalf (manner : Manner) (text : List Char) : Except (Fault × Nat) (Char × Nat) :=
  match manner with
  | .strict => .error (.halfPair, text.length + 1)
  | .tolerant => .ok ('\uFFFD', 4)

/-- The character of an escape `\uXXXX`, read behind the `u`, and how many characters it takes: the
second escape of a surrogate pair belongs to it. -/
def unicodeEscape (manner : Manner) (text : List Char) : Except (Fault × Nat) (Char × Nat) :=
  match escapeNumber text with
  | .error e => .error e
  | .ok n =>
    if isHighHalf n then
      match text.drop 4 with
      | '\\' :: 'u' :: second =>
        match escapeNumber second with
        | .error e => .error e
        | .ok low =>
          if isLowHalf low then .ok (Char.ofNat (joinHalves n low), 10) else loneHalf manner text
      | _ => loneHalf manner text
    else if isLowHalf n then loneHalf manner text
    else .ok (Char.ofNat n, 4)

/-- The character that a letter behind a backslash stands for. -/
def simpleEscape? : Char → Option Char
  | '"' => some '"'
  | '\\' => some '\\'
  | '/' => some '/'
  | 'b' => some '\x08'
  | 'f' => some '\x0c'
  | 'n' => some '\n'
  | 'r' => some '\r'
  | 't' => some '\t'
  | _ => none

/-- Reads a text up to its closing quote. The first `skip` characters belong to an escape already
read; `opening` is how many characters were left at the opening quote. -/
def readText (manner : Manner) (opening : Nat) : Nat → List Char → Reading (List Char)
  | _, [] => .error (.openText, opening)
  | skip + 1, _ :: rest => readText manner opening skip rest
  | 0, '"' :: rest => .ok ([], rest)
  | 0, '\\' :: rest =>
    match rest with
    | [] => .error (.openText, opening)
    | 'u' :: digits =>
      match unicodeEscape manner digits with
      | .error e => .error e
      | .ok (c, width) => (readText manner opening (width + 1) rest).map fun r => (c :: r.1, r.2)
    | letter :: _ =>
      match simpleEscape? letter with
      | none => .error (.escape, rest.length + 1)
      | some c => (readText manner opening 1 rest).map fun r => (c :: r.1, r.2)
  | 0, c :: rest =>
    if c.toNat < 0x20 then .error (.controlCharacter, rest.length + 1)
    else (readText manner opening 0 rest).map fun r => (c :: r.1, r.2)

/-! ## Numbers -/

/-- A decimal digit. -/
def isDecimal (c : Char) : Bool :=
  '0' ≤ c && c ≤ '9'

/-- The digits of a fraction behind a point, with the point; empty when there is none. -/
def splitFraction (text : List Char) : List Char × List Char :=
  match text with
  | '.' :: rest =>
    if (rest.takeWhile isDecimal).isEmpty then ([], text)
    else ('.' :: rest.takeWhile isDecimal, rest.dropWhile isDecimal)
  | _ => ([], text)

/-- An exponent with its letter; empty when there is none. -/
def splitExponent (text : List Char) : List Char × List Char :=
  match text with
  | mark :: rest =>
    if mark = 'e' ∨ mark = 'E' then
      let sign := rest.take 1 |>.filter fun c => c == '+' || c == '-'
      let digits := (rest.drop sign.length).takeWhile isDecimal
      if digits.isEmpty then ([], text)
      else (mark :: (sign ++ digits), (rest.drop sign.length).dropWhile isDecimal)
    else ([], text)
  | [] => ([], [])

/-- The number that decimal digits spell. -/
def decimalValue (digits : List Char) : Nat :=
  digits.foldl (fun n d => n * 10 + (d.toNat - '0'.toNat)) 0

/-- Reads a number. A leading zero stands alone. -/
def readNumber (manner : Manner) (text : List Char) : Reading Json :=
  let negative := text.head? == some '-'
  let unsigned := if negative then text.drop 1 else text
  let digits := match unsigned with
    | '0' :: _ => ['0']
    | _ => unsigned.takeWhile isDecimal
  let fraction := splitFraction (unsigned.drop digits.length)
  let exponent := splitExponent fraction.2
  let isWhole := fraction.1.isEmpty && exponent.1.isEmpty
  if digits.isEmpty then .error (.value, text.length)
  else if Text.maxDigits < digits.length ∧ (isWhole ∨ manner = .strict) then
    .error (.longNumber digits.length, text.length)
  else if isWhole then
    let magnitude : Int := decimalValue digits
    .ok (.whole (if negative then -magnitude else magnitude), exponent.2)
  else
    let spelled := (if negative then ['-'] else []) ++ digits ++ fraction.1 ++ exponent.1
    .ok (.real (String.ofList spelled), exponent.2)

/-! ## Values -/

/-- The words that stand for values. -/
def wordValues : List (List Char × Json) :=
  [("null".toList, .null), ("true".toList, .bool true), ("false".toList, .bool false),
   ("NaN".toList, .real "NaN"), ("Infinity".toList, .real "Infinity"),
   ("-Infinity".toList, .real "-Infinity")]

/-- The text without a word in front. -/
def dropWord? : List Char → List Char → Option (List Char)
  | [], rest => some rest
  | _ :: _, [] => none
  | w :: word, c :: rest => if c = w then dropWord? word rest else none

/-- A value that is written as a word. -/
def readWord? (text : List Char) : Option (Json × List Char) :=
  wordValues.findSome? fun entry =>
    (dropWord? entry.1 text).map fun rest => (entry.2, rest)

mutual

/-- Reads a value, with at most `depth` lists and records that hold something inside one another. -/
def readValue (manner : Manner) : (fuel depth : Nat) → List Char → Reading Json
  | 0, _, chars => .error (.value, chars.length)
  | fuel + 1, depth, chars =>
    match chars with
    | '"' :: rest =>
      (readText manner chars.length 0 rest).map fun r => (.text (String.ofList r.1), r.2)
    | '[' :: rest =>
      match skipSpace rest with
      | ']' :: rest => .ok (.list [], rest)
      | rest =>
        if depth = 0 then .error (.depth, chars.length)
        else (readItems manner fuel (depth - 1) rest).map fun r => (.list r.1, r.2)
    | '\x7b' :: rest =>
      match skipSpace rest with
      | '\x7d' :: rest => .ok (.record [], rest)
      | rest =>
        if depth = 0 then .error (.depth, chars.length)
        else (readEntries manner fuel (depth - 1) rest).map fun r => (.record r.1, r.2)
    | _ =>
      match readWord? chars with
      | some found => .ok found
      | none => readNumber manner chars

/-- Reads the items of a list up to its bracket. -/
def readItems (manner : Manner) : (fuel depth : Nat) → List Char → Reading (List Json)
  | 0, _, chars => .error (.value, chars.length)
  | fuel + 1, depth, chars =>
    match readValue manner fuel depth chars with
    | .error e => .error e
    | .ok (item, rest) =>
      match skipSpace rest with
      | ']' :: rest => .ok ([item], rest)
      | ',' :: rest =>
        (readItems manner fuel depth (skipSpace rest)).map fun r => (item :: r.1, r.2)
      | rest => .error (.comma, rest.length)

/-- Reads the entries of a record up to its brace. -/
def readEntries (manner : Manner) : (fuel depth : Nat) → List Char → Reading (List (String × Json))
  | 0, _, chars => .error (.value, chars.length)
  | fuel + 1, depth, chars =>
    match chars with
    | '"' :: rest =>
      match readText manner chars.length 0 rest with
      | .error e => .error e
      | .ok (key, rest) =>
        match skipSpace rest with
        | ':' :: rest =>
          match readValue manner fuel depth (skipSpace rest) with
          | .error e => .error e
          | .ok (value, rest) =>
            match skipSpace rest with
            | '\x7d' :: rest => .ok ([(String.ofList key, value)], rest)
            | ',' :: rest =>
              (readEntries manner fuel depth (skipSpace rest)).map fun r =>
                ((String.ofList key, value) :: r.1, r.2)
            | rest => .error (.comma, rest.length)
        | rest => .error (.colon, rest.length)
    | _ => .error (.key, chars.length)

end

/-- Steps that are always enough to read a text: every list, record, item and entry takes at least
one character and at most two steps. -/
def enoughSteps (text : List Char) : Nat :=
  2 * text.length + 2

/-- Reads a whole text in some manner, with at most `depth` lists and records that hold something
inside one another. -/
def readWith (manner : Manner) (depth : Nat) (text : String) : Except Error Json :=
  let chars := text.toList
  let total := chars.length
  let placed (fault : Fault × Nat) : Error := ⟨fault.1, total - fault.2⟩
  if chars.head? = some '\uFEFF' then .error ⟨.byteOrderMark, 0⟩
  else
    match readValue manner (enoughSteps chars) depth (skipSpace chars) with
    | .error fault => .error (placed fault)
    | .ok (value, rest) =>
      match skipSpace rest with
      | [] => .ok value
      | rest => .error (placed (.extra, rest.length))

/-- Reads a whole text strictly, with at most `depth` lists and records that hold something inside
one another. -/
def read (depth : Nat) (text : String) : Except Error Json :=
  readWith .strict depth text

/-- Reads a whole text tolerantly, however deep it is nested. -/
def readAny (text : String) : Except Error Json :=
  readWith .tolerant text.length text

end PageCompiler.Json
