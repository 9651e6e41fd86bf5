import RowTypings.Fields
import RowTypings.Json.Fault
import RowTypings.Json.Value

/-!
Reading JSON text. Every reader takes the unread characters and returns what it read with the
characters after it. Loops run on a count of steps, for which the length of the whole text is
always enough; nesting is bounded by a count of levels.
-/

namespace RowTypings.Json

open Decimal (Binary64)

/-- What was read, and the characters behind it. -/
abbrev Reading (α : Type) := Except Fault (α × List Char)

/-- A fault at the front of the unread text. -/
def faultAt {α : Type} (cause : Cause) (rest : List Char) : Except Fault α :=
  .error ⟨cause, rest, 0⟩

/-- A fault of the next byte, reported as the place behind it. -/
def faultAfter {α : Type} (cause : Cause) (rest : List Char) : Except Fault α :=
  .error ⟨cause, rest, 1⟩

def isSpace (c : Char) : Bool := c == ' ' || c == '\n' || c == '\t' || c == '\r'

def skipSpace (cs : List Char) : List Char := cs.dropWhile isSpace

/-- The rest of a word such as `true` behind its first letter. -/
def readWord {α : Type} (value : α) : List Char → List Char → Reading α
  | [], cs => .ok (value, cs)
  | _ :: _, [] => faultAt .endInValue []
  | w :: ws, c :: cs =>
    if c == w then readWord value ws cs else faultAfter .expectedWord (c :: cs)

/-! ### Numbers -/

/-- The significand takes digits as long as it fits 64 bits; the digits that no longer fit are
returned. -/
def absorb (significand : Nat) : List Char → Nat × List Char
  | [] => (significand, [])
  | c :: cs =>
    let next := significand * 10 + (c.toNat - '0'.toNat)
    if next < Nat.pow 2 64 then absorb next cs else (significand, c :: cs)

/-- `10 ^ n` as a double, for the powers a double can hold. -/
def powerOfTen (n : Nat) : Binary64 :=
  (Binary64.nearest false (Nat.pow 10 n) 1).getD (.zero false)

/-- `x · 10 ^ exponent` by one multiplication or division of doubles. An exponent below the table
of powers is first raised by divisions, of which the second leaves nothing of any significand. -/
def scale : Nat → Binary64 → Int → Option Binary64
  | steps, x, exponent =>
    if exponent.natAbs ≤ 308 then
      if exponent < 0 then x.div (powerOfTen exponent.natAbs)
      else x.mul (powerOfTen exponent.natAbs)
    else if x.isZero then some x
    else if 0 ≤ exponent then none
    else
      match steps with
      | 0 => some (.zero x.negative)
      | steps + 1 => (x.div (powerOfTen 308)).bind fun y => scale steps y (exponent + 308)

def floatOfParts (negative : Bool) (significand : Nat) (exponent : Int) (rest : List Char) :
    Reading Number :=
  match (Binary64.nearest negative significand 1).bind fun x => scale 2 x exponent with
  | some x => .ok (.float x, rest)
  | none => faultAt .numberOutOfRange rest

/-- A whole number without point or exponent; `-0` and what 64 bits cannot hold are doubles. -/
def wholeNumber (negative : Bool) (significand : Nat) (rest : List Char) : Reading Number :=
  if !negative then .ok (.integer significand, rest)
  else if 0 < significand && significand ≤ Nat.pow 2 63 then .ok (.integer (-significand), rest)
  else floatOfParts true significand 0 rest

/-- The digits of an exponent; `none` with the text behind the digit at which it passes 31 bits. -/
def readExponentDigits (exponent : Nat) : List Char → Option Nat × List Char
  | [] => (some exponent, [])
  | c :: cs =>
    if c.isDigit then
      let next := exponent * 10 + (c.toNat - '0'.toNat)
      if next < Nat.pow 2 31 then readExponentDigits next cs else (none, cs)
    else (some exponent, c :: cs)

/-- The exponent behind `e`, applied to the significand and the exponent read so far. -/
def readExponent (negative : Bool) (significand : Nat) (start : Int) (cs : List Char) :
    Reading Number :=
  let (down, cs) :=
    match cs with
    | '+' :: cs => (false, cs)
    | '-' :: cs => (true, cs)
    | cs => (false, cs)
  match cs with
  | [] => faultAt .endInValue []
  | c :: rest =>
    if !c.isDigit then faultAfter .invalidNumber (c :: rest)
    else
      match readExponentDigits 0 (c :: rest) with
      | (some e, rest) =>
        floatOfParts negative significand (if down then start - e else start + e) rest
      | (none, rest) =>
        if significand != 0 && !down then faultAt .numberOutOfRange rest
        else .ok (.float (.zero negative), rest.dropWhile Char.isDigit)

/-- The fraction behind a point. -/
def readFraction (negative : Bool) (significand : Nat) (start : Int) (cs : List Char) :
    Reading Number :=
  let digits := cs.takeWhile Char.isDigit
  let rest := cs.dropWhile Char.isDigit
  if digits.isEmpty then
    faultAfter (if rest.isEmpty then .endInValue else .invalidNumber) rest
  else
    let (significand, dropped) := absorb significand digits
    let exponent := start - (digits.length - dropped.length : Nat)
    match rest with
    | 'e' :: rest | 'E' :: rest => readExponent negative significand exponent rest
    | rest => floatOfParts negative significand exponent rest

/-- A number behind its sign. -/
def readNumber (negative : Bool) (cs : List Char) : Reading Number :=
  match cs with
  | [] => faultAt .endInValue []
  | c :: rest =>
    if !c.isDigit then faultAfter .invalidNumber (c :: rest)
    else
      let digits := if c == '0' then ['0'] else cs.takeWhile Char.isDigit
      let rest := if c == '0' then rest else cs.dropWhile Char.isDigit
      let (significand, dropped) := absorb 0 digits
      match rest with
      | '.' :: rest => readFraction negative significand dropped.length rest
      | 'e' :: rest | 'E' :: rest => readExponent negative significand dropped.length rest
      | rest =>
        if c == '0' && rest.head?.any Char.isDigit then
          faultAfter .invalidNumber rest
        else if dropped.isEmpty then wholeNumber negative significand rest
        else floatOfParts negative significand dropped.length rest

/-! ### Strings -/

def hexValue? (c : Char) : Option Nat :=
  if c.isDigit then some (c.toNat - '0'.toNat)
  else if 'a' ≤ c && c ≤ 'f' then some (c.toNat - 'a'.toNat + 10)
  else if 'A' ≤ c && c ≤ 'F' then some (c.toNat - 'A'.toNat + 10)
  else none

/-- Four hexadecimal digits. They are taken as four bytes, so a fault in them is reported behind
the fourth byte. -/
def readHex (cs : List Char) : Reading Nat :=
  if byteCount (cs.take 4) < 4 then .error ⟨.endInString, cs, 4⟩
  else
    match (cs.take 4).mapM hexValue? with
    | some digits => .ok (digits.foldl (fun n d => n * 16 + d) 0, cs.drop 4)
    | none => .error ⟨.invalidEscape, cs, 4⟩

def isHighSurrogate (n : Nat) : Bool := 0xD800 ≤ n && n ≤ 0xDBFF

def isLowSurrogate (n : Nat) : Bool := 0xDC00 ≤ n && n ≤ 0xDFFF

/-- The second half of a surrogate pair, which must be an escape of its own. -/
def readLowSurrogate (high : Nat) (cs : List Char) : Except Fault (Char × List Char) := do
  match cs with
  | [] => faultAt .endInString []
  | '\\' :: cs =>
    match cs with
    | [] => faultAt .endInString []
    | 'u' :: cs =>
      let (low, rest) ← readHex cs
      if isLowSurrogate low then
        .ok (Char.ofNat ((high - 0xD800) * 0x400 + (low - 0xDC00) + 0x10000), rest)
      else faultAt .loneSurrogate rest
    | cs => faultAfter .unfinishedSurrogatePair cs
  | cs => faultAfter .unfinishedSurrogatePair cs

/-- The escape behind a backslash. -/
def readEscape (cs : List Char) : Except Fault (Char × List Char) := do
  match cs with
  | [] => faultAt .endInString []
  | '"' :: cs => .ok ('"', cs)
  | '\\' :: cs => .ok ('\\', cs)
  | '/' :: cs => .ok ('/', cs)
  | 'b' :: cs => .ok ('\x08', cs)
  | 'f' :: cs => .ok ('\x0c', cs)
  | 'n' :: cs => .ok ('\n', cs)
  | 'r' :: cs => .ok ('\r', cs)
  | 't' :: cs => .ok ('\t', cs)
  | 'u' :: cs =>
    let (n, rest) ← readHex cs
    if isLowSurrogate n then faultAt .loneSurrogate rest
    else if isHighSurrogate n then readLowSurrogate n rest
    else .ok (Char.ofNat n, rest)
  | cs => faultAfter .invalidEscape cs

/-- The characters of a string behind its opening quote, added to those of `done`, which are in
reverse. -/
def readString (done : List Char) : Nat → List Char → Except Fault (String × List Char)
  | 0, cs => faultAt .endInString cs
  | _, [] => faultAt .endInString []
  | steps + 1, c :: cs =>
    if c == '"' then .ok (String.ofList done.reverse, cs)
    else if c == '\\' then do
      let (e, rest) ← readEscape cs
      readString (e :: done) steps rest
    else if c.toNat < 32 then faultAfter .controlCharacter (c :: cs)
    else readString (c :: done) steps cs

/-! ### Values -/

/-- The items of an array, the first of which is due next, added to those of `done`. -/
def readItems (item : List Char → Reading Value) (done : List Value) :
    Nat → List Char → Except Fault (Value × List Char)
  | 0, cs => faultAt .endInList cs
  | steps + 1, cs => do
    let (v, rest) ← item cs
    let rest := skipSpace rest
    match rest with
    | [] => faultAt .endInList []
    | ']' :: rest => .ok (.array (v :: done).reverse, rest)
    | ',' :: rest =>
      match skipSpace rest with
      | [] => faultAt .endInValue []
      | ']' :: rest => faultAfter .trailingComma (']' :: rest)
      | rest => readItems item (v :: done) steps rest
    | rest => faultAfter .expectedListCommaOrEnd rest

/-- One field of an object, of which the opening quote of the name is due next. -/
def readField (limit : Nat) (item : List Char → Reading Value) (cs : List Char) :
    Except Fault ((String × Value) × List Char) := do
  match cs with
  | '"' :: cs =>
    let (name, rest) ← readString [] limit cs
    match skipSpace rest with
    | [] => faultAt .endInObject []
    | ':' :: rest =>
      let (v, rest) ← item rest
      .ok ((name, v), rest)
    | rest => faultAfter .expectedColon rest
  | cs => faultAfter .keyNotText cs

/-- The fields of an object, the first of which is due next, added to those of `done`. -/
def readFields (limit : Nat) (item : List Char → Reading Value) (done : List (String × Value)) :
    Nat → List Char → Except Fault (Value × List Char)
  | 0, cs => faultAt .endInObject cs
  | steps + 1, cs => do
    let (field, rest) ← readField limit item cs
    match skipSpace rest with
    | [] => faultAt .endInObject []
    | '}' :: rest => .ok (.object (Fields.ofList (field :: done).reverse), rest)
    | ',' :: rest =>
      match skipSpace rest with
      | [] => faultAt .endInValue []
      | '}' :: rest => faultAfter .trailingComma ('}' :: rest)
      | rest => readFields limit item (field :: done) steps rest
    | rest => faultAfter .expectedObjectCommaOrEnd rest

def readArray (limit : Nat) (item : List Char → Reading Value) (cs : List Char) : Reading Value :=
  match skipSpace cs with
  | [] => faultAt .endInList []
  | ']' :: rest => .ok (.array [], rest)
  | rest => readItems item [] limit rest

def readObject (limit : Nat) (item : List Char → Reading Value) (cs : List Char) : Reading Value :=
  match skipSpace cs with
  | [] => faultAt .endInObject []
  | '}' :: rest => .ok (.object [], rest)
  | rest => readFields limit item [] limit rest

/-- One value, behind any white space. At most `levels` lists and objects may be open around
each other. -/
def readValue (limit : Nat) : Nat → List Char → Except Fault (Value × List Char)
  | levels, cs => do
    let cs := skipSpace cs
    match cs with
    | [] => faultAt .endInValue []
    | 'n' :: rest => readWord .null "ull".toList rest
    | 't' :: rest => readWord (.bool true) "rue".toList rest
    | 'f' :: rest => readWord (.bool false) "alse".toList rest
    | '"' :: rest =>
      let (s, rest) ← readString [] limit rest
      .ok (.text s, rest)
    | '-' :: rest =>
      let (n, rest) ← readNumber true rest
      .ok (.number n, rest)
    | '[' :: rest =>
      match levels with
      | 0 => faultAfter .nestedTooDeep cs
      | levels + 1 => readArray limit (readValue limit levels) rest
    | '{' :: rest =>
      match levels with
      | 0 => faultAfter .nestedTooDeep cs
      | levels + 1 => readObject limit (readValue limit levels) rest
    | c :: _ =>
      if c.isDigit then
        let (n, rest) ← readNumber false cs
        .ok (.number n, rest)
      else faultAfter .expectedValue cs

/-- How many lists and objects a text may open around each other. -/
def nestingLimit : Nat := 127

/-- The one value of a text. -/
def read (text : String) : Except Fault Value := do
  let (v, rest) ← readValue (text.length + 1) nestingLimit text.toList
  match skipSpace rest with
  | [] => .ok v
  | rest => faultAfter .trailingCharacters rest

/-- A value that shows its own end: what follows it can be anything. -/
def isDelimited (c : Char) : Bool := c == '[' || c == '"' || c == '{'

/-- What may follow directly on a value that does not show its own end. -/
def endsBareValue : List Char → Bool
  | [] => true
  | c :: _ => isSpace c || "\"[]\x7b\x7d,:".toList.contains c

/-- The values of a text that holds any number of them one after the other. -/
def readMany (limit : Nat) (done : List Value) : Nat → List Char → Except Fault (List Value)
  | 0, _ => .ok done.reverse
  | steps + 1, cs => do
    match skipSpace cs with
    | [] => .ok done.reverse
    | c :: cs =>
      let (v, rest) ← readValue limit nestingLimit (c :: cs)
      if isDelimited c || endsBareValue rest then readMany limit (v :: done) steps rest
      else faultAfter .trailingCharacters rest

def readStream (text : String) : Except Fault (List Value) :=
  readMany (text.length + 1) [] (text.length + 1) text.toList

end RowTypings.Json
