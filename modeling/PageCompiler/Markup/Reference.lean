import PageCompiler.Markup.Error
import PageCompiler.Markup.Reference.CapitalNames
import PageCompiler.Markup.Reference.SmallNamesAToM
import PageCompiler.Markup.Reference.SmallNamesNToZ
import PageCompiler.Markup.Reference.OtherNames

/-!
# Character references in attribute values

`expand` replaces every character reference of an attribute value by the characters it stands for.

* A number, decimal after `&#` or hexadecimal after `&#x`, stands for the character with that code
  point. Numbers below the end of the Windows-1252 range mean that code page's characters, zero,
  surrogates and numbers past the last code point mean U+FFFD, and a number of a control character
  or noncharacter means nothing at all.
* A name stands for what the table gives. Without a semicolon only the old names count, and an old
  name also counts when other characters follow it at once, the longest such name first.

Whatever is not a reference stays as it is. The replacement is not read again.
-/

namespace PageCompiler.Markup

/-- An ASCII digit. -/
def isDigit (c : Char) : Bool :=
  '0' ≤ c && c ≤ '9'

/-- A hexadecimal digit, small or capital. -/
def isHexDigit (c : Char) : Bool :=
  isDigit c || ('a' ≤ c && c ≤ 'f') || ('A' ≤ c && c ≤ 'F')

/-- The number a hexadecimal digit stands for. -/
def digitValue (c : Char) : Nat :=
  if isDigit c then c.toNat - '0'.toNat
  else if 'a' ≤ c then c.toNat - 'a'.toNat + 10
  else c.toNat - 'A'.toNat + 10

/-- One more than the last code point. -/
def codePointLimit : Nat := 0x110000

/-- The number that digits spell in a base, cut off at the limit of the code points. -/
def codePointOf (base : Nat) (digits : List Char) : Nat :=
  digits.foldl (fun n d => min (n * base + digitValue d) codePointLimit) 0

/-- What the numbers 0x80 to 0x9F mean in Windows-1252. -/
def windows1252 : List Nat :=
  [0x20AC, 0x81, 0x201A, 0x0192, 0x201E, 0x2026, 0x2020, 0x2021, 0x02C6, 0x2030, 0x0160, 0x2039,
   0x0152, 0x8D, 0x017D, 0x8F, 0x90, 0x2018, 0x2019, 0x201C, 0x201D, 0x2022, 0x2013, 0x2014,
   0x02DC, 0x2122, 0x0161, 0x203A, 0x0153, 0x9D, 0x017E, 0x0178]

/-- A code point that no text should hold: a control character or a noncharacter. -/
def isDroppedNumber (n : Nat) : Bool :=
  (1 ≤ n && n ≤ 8) || n == 0xB || (0xE ≤ n && n ≤ 0x1F) || n == 0x7F ||
    (0xFDD0 ≤ n && n ≤ 0xFDEF) || n % 0x10000 == 0xFFFE || n % 0x10000 == 0xFFFF

/-- What a numeric reference stands for. -/
def numericReference (n : Nat) : List Char :=
  if n = 0 then ['\uFFFD']
  else if 0x80 ≤ n ∧ n ≤ 0x9F then [Char.ofNat (windows1252.getD (n - 0x80) n)]
  else if (0xD800 ≤ n ∧ n ≤ 0xDFFF) ∨ codePointLimit ≤ n then ['\uFFFD']
  else if isDroppedNumber n then []
  else [Char.ofNat n]

/-- What a name with its semicolon stands for. -/
def namedReference? (name : List Char) : Option (List Char) :=
  let key := String.ofList name
  match name with
  | [] => none
  | c :: _ =>
    let names := if c.isUpper then capitalNames c else if c ≤ 'm' then smallNamesAToM c
      else smallNamesNToZ c
    match names.lookup key with
    | some code => some [Char.ofNat code]
    | none => (pairNames.lookup key).map fun pair => [Char.ofNat pair.1, Char.ofNat pair.2]

/-- What a name without a semicolon stands for. -/
def openReference? (name : List Char) : Option (List Char) :=
  if openNames.contains (String.ofList name) then namedReference? name else none

/-- The longest old name of between two and `n` characters at the front of a text, replaced by what
it stands for. -/
def expandOpenFront (text : List Char) : Nat → Option (List Char)
  | n + 2 =>
    match openReference? (text.take (n + 2)) with
    | some chars => some (chars ++ text.drop (n + 2))
    | none => expandOpenFront text (n + 1)
  | _ => none

/-- What stands in place of `&name;`, or of `&name` when the semicolon is missing. -/
def expandName (name : List Char) (closed : Bool) : List Char :=
  let written := if closed then name ++ [';'] else name
  match if closed then namedReference? name else openReference? name with
  | some chars => chars
  | none => (expandOpenFront written (written.length - 1)).getD ('&' :: written)

/-- A character that can stand in the name of a reference. -/
def isNameInReference (c : Char) : Bool :=
  !"\t\n\x0c <&#;".toList.contains c

/-- The longest name that is looked up. -/
def maxNameLength : Nat := 32

/-- One if the text goes on with a semicolon, which belongs to the reference, else zero. -/
def semicolonWidth : List Char → Nat
  | ';' :: _ => 1
  | _ => 0

/-- The reference right behind an `&`: what stands in its place and how many characters it has. -/
def reference? : List Char → Except Error (Option (List Char × Nat))
  | '#' :: rest =>
    let decimal := rest.takeWhile isDigit
    if decimal ≠ [] then
      if Text.maxDigits < decimal.length then .error (.referenceTooLong decimal.length)
      else
        .ok (some (numericReference (codePointOf 10 decimal),
          1 + decimal.length + semicolonWidth (rest.drop decimal.length)))
    else
      match rest with
      | [] => .ok none
      | mark :: rest =>
        let digits := rest.takeWhile isHexDigit
        if (mark = 'x' ∨ mark = 'X') ∧ digits ≠ [] then
          .ok (some (numericReference (codePointOf 16 digits),
            2 + digits.length + semicolonWidth (rest.drop digits.length)))
        else .ok none
  | text =>
    let name := (text.take maxNameLength).takeWhile isNameInReference
    if name = [] then .ok none
    else
      let width := semicolonWidth (text.drop name.length)
      .ok (some (expandName name (width == 1), name.length + width))

/-- The text with its references replaced; its first `skip` characters belong to a reference already
replaced. -/
def expandFrom : Nat → List Char → Except Error (List Char)
  | _, [] => .ok []
  | skip + 1, _ :: rest => expandFrom skip rest
  | 0, c :: rest =>
    if c = '&' then
      match reference? rest with
      | .error e => .error e
      | .ok none => ('&' :: ·) <$> expandFrom 0 rest
      | .ok (some (chars, width)) => (chars ++ ·) <$> expandFrom width rest
    else (c :: ·) <$> expandFrom 0 rest

/-- An attribute value with its character references replaced. -/
def expand (value : List Char) : Except Error (List Char) :=
  expandFrom 0 value

/-- A value without `&` stands for itself. -/
theorem expand_of_no_ampersand {value : List Char} (h : '&' ∉ value) :
    expand value = .ok value := by
  unfold expand
  induction value with
  | nil => rfl
  | cons c rest ih =>
    have hc : c ≠ '&' := fun he => h (he ▸ List.mem_cons_self)
    have hr : '&' ∉ rest := fun hm => h (List.mem_cons_of_mem _ hm)
    simp [expandFrom, hc, ih hr, Functor.map, Except.map]

end PageCompiler.Markup
