import PageCompiler.Text.Quoted

/-!
# Reading UTF-8

`decode` turns bytes into text, or says where the first bad sequence starts, how many of its bytes
were well-formed, and what is wrong: a byte that starts no character, a byte that does not continue
one, or data that ends inside one. The second byte of a sequence carries the limits that keep out
overlong forms, surrogates and numbers past U+10FFFF (`secondByteFits`).

`joinLineEnds` is what a text file means by a line end: carriage return, line feed, or both in that
order are all one line feed.
-/

namespace PageCompiler.Text

/-- What is wrong with a byte sequence. -/
inductive Utf8Fault
  | invalidStart
  | invalidContinuation
  | unexpectedEnd
  deriving Repr, DecidableEq

/-- The fault in words. -/
def Utf8Fault.reason : Utf8Fault → String
  | .invalidStart => "invalid start byte"
  | .invalidContinuation => "invalid continuation byte"
  | .unexpectedEnd => "unexpected end of data"

/-- The first bad sequence of some bytes: where it starts, its first byte, how many bytes it has. -/
structure Utf8Error where
  fault : Utf8Fault
  position : Nat
  firstByte : UInt8
  width : Nat
  deriving Repr, DecidableEq

/-- The error in words: the byte or the range of bytes, and the reason. -/
def Utf8Error.message (error : Utf8Error) : String :=
  let first := error.firstByte.toNat
  let place :=
    if error.width = 1 then
      "byte 0x" ++ String.ofList (hexDigits 2 first) ++ " in position " ++ toString error.position
    else
      "bytes in position " ++ toString error.position ++ "-" ++
        toString (error.position + error.width - 1)
  "'utf-8' codec can't decode " ++ place ++ ": " ++ error.fault.reason

/-- A byte that can continue a character. -/
def isContinuation (b : UInt8) : Bool :=
  0x80 ≤ b && b < 0xC0

/-- A byte that can come second after the first byte `b`. -/
def secondByteFits (b second : UInt8) : Bool :=
  isContinuation second &&
    (if b = 0xE0 then 0xA0 ≤ second
     else if b = 0xED then second < 0xA0
     else if b = 0xF0 then 0x90 ≤ second
     else if b = 0xF4 then second < 0x90
     else true)

/-- The six bits that a continuation byte carries. -/
def payload (b : UInt8) : Nat :=
  b.toNat % 0x40

/-- One character at the front of some bytes, with the bytes it takes; or what is wrong there, with
the number of bytes to blame. -/
def decodeFirst (b : UInt8) (rest : List UInt8) : Except (Utf8Fault × Nat) (Char × Nat) :=
  if b < 0x80 then .ok (Char.ofNat b.toNat, 1)
  else if b < 0xC2 then .error (.invalidStart, 1)
  else if b < 0xE0 then
    match rest with
    | [] => .error (.unexpectedEnd, 1)
    | c :: _ =>
      if isContinuation c then .ok (Char.ofNat (b.toNat % 0x20 * 0x40 + payload c), 2)
      else .error (.invalidContinuation, 1)
  else if b < 0xF0 then
    match rest with
    | [] => .error (.unexpectedEnd, 1)
    | c :: rest =>
      if !secondByteFits b c then .error (.invalidContinuation, 1)
      else
        match rest with
        | [] => .error (.unexpectedEnd, 2)
        | d :: _ =>
          if isContinuation d then
            .ok (Char.ofNat ((b.toNat % 0x10 * 0x40 + payload c) * 0x40 + payload d), 3)
          else .error (.invalidContinuation, 2)
  else if b < 0xF5 then
    match rest with
    | [] => .error (.unexpectedEnd, 1)
    | c :: rest =>
      if !secondByteFits b c then .error (.invalidContinuation, 1)
      else
        match rest with
        | [] => .error (.unexpectedEnd, 2)
        | d :: rest =>
          if !isContinuation d then .error (.invalidContinuation, 2)
          else
            match rest with
            | [] => .error (.unexpectedEnd, 3)
            | e :: _ =>
              if isContinuation e then
                .ok (Char.ofNat
                  (((b.toNat % 8 * 0x40 + payload c) * 0x40 + payload d) * 0x40 + payload e), 4)
              else .error (.invalidContinuation, 3)
  else .error (.invalidStart, 1)

/-- The characters of some bytes that begin at `position`; the first `skip` bytes belong to a
character already read. -/
def decodeFrom (position : Nat) : Nat → List UInt8 → Except Utf8Error (List Char)
  | _, [] => .ok []
  | skip + 1, _ :: rest => decodeFrom (position + 1) skip rest
  | 0, b :: rest =>
    match decodeFirst b rest with
    | .error (fault, width) => .error ⟨fault, position, b, width⟩
    | .ok (c, width) => (c :: ·) <$> decodeFrom (position + 1) (width - 1) rest

/-- The text that the bytes spell. -/
def decode (bytes : List UInt8) : Except Utf8Error String :=
  String.ofList <$> decodeFrom 0 0 bytes

/-- Each line end, however it was written, as one line feed. -/
def joinLineEnds : List Char → List Char
  | [] => []
  | '\r' :: '\n' :: rest => '\n' :: joinLineEnds rest
  | c :: rest => (if c = '\r' then '\n' else c) :: joinLineEnds rest

/-- The text of a file: its characters, with line ends made uniform. -/
def readText (bytes : List UInt8) : Except Utf8Error String :=
  (fun text => String.ofList (joinLineEnds text.toList)) <$> decode bytes

end PageCompiler.Text
