/-!
What can be wrong with a JSON text, and where. A fault carries the unread text at its place; line
and column are counted in bytes from there.
-/

namespace RowTypings.Json

inductive Cause where
  | endInList
  | endInObject
  | endInString
  | endInValue
  | expectedColon
  | expectedListCommaOrEnd
  | expectedObjectCommaOrEnd
  | expectedWord
  | expectedValue
  | invalidEscape
  | invalidNumber
  | numberOutOfRange
  | controlCharacter
  | keyNotText
  | loneSurrogate
  | trailingComma
  | trailingCharacters
  | unfinishedSurrogatePair
  | nestedTooDeep
  deriving DecidableEq

def Cause.message : Cause → String
  | endInList => "EOF while parsing a list"
  | endInObject => "EOF while parsing an object"
  | endInString => "EOF while parsing a string"
  | endInValue => "EOF while parsing a value"
  | expectedColon => "expected `:`"
  | expectedListCommaOrEnd => "expected `,` or `]`"
  | expectedObjectCommaOrEnd => "expected `,` or `\x7d`"
  | expectedWord => "expected ident"
  | expectedValue => "expected value"
  | invalidEscape => "invalid escape"
  | invalidNumber => "invalid number"
  | numberOutOfRange => "number out of range"
  | controlCharacter => "control character (\\u0000-\\u001F) found while parsing a string"
  | keyNotText => "key must be a string"
  | loneSurrogate => "lone leading surrogate in hex escape"
  | trailingComma => "trailing comma"
  | trailingCharacters => "trailing characters"
  | unfinishedSurrogatePair => "unexpected end of hex escape"
  | nestedTooDeep => "recursion limit exceeded"

/-- A fault found `skip` bytes into the unread text `rest`, or at its end if that is nearer. -/
structure Fault where
  cause : Cause
  rest : List Char
  skip : Nat

def byteCount (cs : List Char) : Nat :=
  cs.foldl (fun n c => n + c.utf8Size) 0

/-- A place in a text: the line counted from one, and the bytes between its start and the place. -/
structure Place where
  line : Nat
  column : Nat

def Place.step (p : Place) (byte : UInt8) : Place :=
  if byte == 10 then ⟨p.line + 1, 0⟩ else ⟨p.line, p.column + 1⟩

/-- The place behind the first `offset` bytes. -/
def Place.ofOffset (text : String) (offset : Nat) : Place :=
  (text.toUTF8.toList.take offset).foldl Place.step ⟨1, 0⟩

/-- The place of a fault found while reading `text`. -/
def Fault.place (text : String) (fault : Fault) : Place :=
  let left := byteCount fault.rest
  Place.ofOffset text (text.utf8ByteSize - left + min fault.skip left)

def faultMessage (cause : Cause) (place : Place) : String :=
  s!"{cause.message} at line {place.line} column {place.column}"

end RowTypings.Json
