import RowTypings.Json.Value
import RowTypings.Text.Trim

/-!
Numbers and booleans carried as text. Numeric text has the form of a JSON number; a whole number in
64 bits is kept exactly, any other is the nearest double.
-/

namespace RowTypings

/-- The parts of a JSON number. -/
structure NumberToken where
  negative : Bool
  whole : List Char
  fraction : List Char
  exponent : Option Int
  deriving DecidableEq

def digitsValue (digits : List Char) : Nat :=
  digits.foldl (fun n c => n * 10 + (c.toNat - '0'.toNat)) 0

namespace NumberToken

/-- Digits without a leading zero, unless zero is all there is. -/
def readWhole (cs : List Char) : Option (List Char × List Char) :=
  match cs with
  | '0' :: rest => some (['0'], rest)
  | cs =>
    let digits := cs.takeWhile Char.isDigit
    if digits.isEmpty then none else some (digits, cs.dropWhile Char.isDigit)

def readFraction : List Char → Option (List Char × List Char)
  | '.' :: cs =>
    let digits := cs.takeWhile Char.isDigit
    if digits.isEmpty then none else some (digits, cs.dropWhile Char.isDigit)
  | cs => some ([], cs)

def readSign : List Char → Bool × List Char
  | '+' :: cs => (false, cs)
  | '-' :: cs => (true, cs)
  | cs => (false, cs)

/-- The exponent, up to the end of the text. -/
def readExponent : List Char → Option (Option Int)
  | [] => some none
  | e :: cs =>
    if e == 'e' || e == 'E' then
      let (down, digits) := readSign cs
      if !digits.isEmpty && digits.all Char.isDigit then
        let n : Int := digitsValue digits
        some (some (if down then -n else n))
      else none
    else none

def ofChars? (cs : List Char) : Option NumberToken := do
  let (negative, cs) :=
    match cs with
    | '-' :: cs => (true, cs)
    | cs => (false, cs)
  let (whole, cs) ← readWhole cs
  let (fraction, cs) ← readFraction cs
  let exponent ← readExponent cs
  return { negative, whole, fraction, exponent }

/-- The whole number a token without fraction and exponent stands for. -/
def integer? (t : NumberToken) : Option Int :=
  if t.fraction.isEmpty && t.exponent.isNone then
    let n : Int := digitsValue t.whole
    some (if t.negative then -n else n)
  else none

def float? (t : NumberToken) : Option Decimal.Binary64 :=
  Decimal.Binary64.ofDecimal t.negative (digitsValue (t.whole ++ t.fraction))
    (t.exponent.getD 0 - t.fraction.length)

end NumberToken

/-- The whole numbers that fit 64 bits, signed or unsigned. -/
def fitsWord (n : Int) : Bool := -(Nat.pow 2 63 : Int) ≤ n && n < (Nat.pow 2 64 : Int)

def Number.ofToken? (t : NumberToken) : Option Number :=
  match t.integer?.filter fitsWord with
  | some n => some (.integer n)
  | none => t.float?.map .float

/-- The number a text stands for. A number too large for a double is none. -/
def Number.ofText? (s : String) : Option Number :=
  (NumberToken.ofChars? (Text.trim s).toList).bind Number.ofToken?

/-- `true` or `false`, in capital or small ASCII letters. -/
def booleanOfText? (s : String) : Option Bool :=
  let word := (Text.trim s).toList.map Char.toLower
  if word == "true".toList then some true
  else if word == "false".toList then some false
  else none

end RowTypings
