import RowTypings.Decimal.Binary64
import RowTypings.Toml.Quoted

/-!
Values of TOML without quotes and brackets: booleans, numbers and timestamps. Underscores may stand
between the digits of a number, one at a time.
-/

namespace RowTypings.Toml

/-- The characters by which `rest` is shorter than `cs`. -/
def literalOf (cs rest : List Char) : String := String.ofList (cs.take (cs.length - rest.length))

def readWord : List Char → List Char → Option (List Char)
  | [], cs => some cs
  | w :: ws, c :: cs => if c == w then readWord ws cs else none
  | _ :: _, [] => none

/-! ### Numbers -/

/-- The digits behind a first digit. -/
def moreDigits (isDigit : Char → Bool) : List Char → List Char × List Char
  | [] => ([], [])
  | c :: cs =>
    if isDigit c then ((moreDigits isDigit cs).map (c :: ·) id)
    else if c == '_' && cs.head?.any isDigit then moreDigits isDigit cs
    else ([], c :: cs)

/-- At least one digit. -/
def readDigits (isDigit : Char → Bool) : List Char → Option (List Char × List Char)
  | [] => none
  | c :: cs => if isDigit c then some ((moreDigits isDigit cs).map (c :: ·) id) else none

/-- Decimal digits without a leading zero, unless zero is all there is. -/
def readWhole : List Char → Option (List Char × List Char)
  | '0' :: cs => some (['0'], cs)
  | cs => readDigits Char.isDigit cs

def readSign : List Char → Bool × List Char
  | '-' :: cs => (true, cs)
  | '+' :: cs => (false, cs)
  | cs => (false, cs)

def valueInBase (base : Nat) (digits : List Char) : Nat :=
  digits.foldl (fun v c => v * base + (hexDigit? c).getD 0) 0

/-- A whole number, which has to fit 64 bits with its sign. -/
def signedWord? (negative : Bool) (magnitude : Nat) : Option Int :=
  if negative then if magnitude ≤ Nat.pow 2 63 then some (-magnitude) else none
  else if magnitude < Nat.pow 2 63 then some magnitude
  else none

def isDigitOfBase (base : Nat) (c : Char) : Bool := (hexDigit? c).any (· < base)

def readInBase (base : Nat) (cs : List Char) : Option (Int × List Char) := do
  let (digits, rest) ← readDigits (isDigitOfBase base) cs
  return (← signedWord? false (valueInBase base digits), rest)

def readInteger : List Char → Option (Int × List Char)
  | '0' :: 'x' :: cs => readInBase 16 cs
  | '0' :: 'o' :: cs => readInBase 8 cs
  | '0' :: 'b' :: cs => readInBase 2 cs
  | cs => do
    let (negative, cs) := readSign cs
    let (digits, rest) ← readWhole cs
    return (← signedWord? negative (valueInBase 10 digits), rest)

/-- The fraction behind the whole part; without a point there is none. -/
def readFraction : List Char → Option (List Char × List Char)
  | '.' :: cs => readDigits Char.isDigit cs
  | cs => some ([], cs)

/-- The exponent behind the fraction; without an `e` there is none. -/
def readExponent : List Char → Option (Option Int × List Char)
  | [] => some (none, [])
  | c :: cs =>
    if c == 'e' || c == 'E' then do
      let (negative, cs) := readSign cs
      let (digits, rest) ← readDigits Char.isDigit cs
      let n : Int := valueInBase 10 digits
      return (some (if negative then -n else n), rest)
    else some (none, c :: cs)

/-- The literal of a number with a fraction or an exponent. A positive one has to fit a double. -/
def readDecimal (cs : List Char) : Option (String × List Char) := do
  let (negative, start) := readSign cs
  let (whole, rest) ← readWhole start
  let (fraction, rest) ← readFraction rest
  let (exponent, rest) ← readExponent rest
  let double :=
    Decimal.Binary64.ofDecimal negative (valueInBase 10 (whole ++ fraction))
      (exponent.getD 0 - fraction.length)
  if (fraction.isEmpty && exponent.isNone) || (double.isNone && !negative) then none
  else some (literalOf cs rest, rest)

/-- Infinity and the number that is none, with a sign or without. -/
def readSpecial (cs : List Char) : Option (String × List Char) :=
  let (_, start) := readSign cs
  ((readWord "inf".toList start).or (readWord "nan".toList start)).map fun rest =>
    (literalOf cs rest, rest)

/-! ### Timestamps -/

/-- A number of exactly `n` digits between two bounds. -/
def readBetween (n least greatest : Nat) (cs : List Char) : Option (Nat × List Char) :=
  let digits := cs.take n
  let value := valueInBase 10 digits
  if digits.length == n && digits.all Char.isDigit && least ≤ value && value ≤ greatest then
    some (value, cs.drop n)
  else none

def daysOfMonth (year month : Nat) : Nat :=
  if month == 2 then
    if year % 4 == 0 && (year % 100 != 0 || year % 400 == 0) then 29 else 28
  else if month ∈ [4, 6, 9, 11] then 30
  else 31

/-- The text behind `YYYY-MM-DD`. -/
def behindDate (cs : List Char) : Option (List Char) := do
  let (year, cs) ← readBetween 4 0 9999 cs
  let (month, cs) ← readBetween 2 1 12 (← readWord ['-'] cs)
  let (_, cs) ← readBetween 2 1 (daysOfMonth year month) (← readWord ['-'] cs)
  return cs

/-- The text behind a fraction of a second, if there is one. -/
def behindFraction : List Char → List Char
  | '.' :: cs => if cs.head?.any Char.isDigit then cs.dropWhile Char.isDigit else '.' :: cs
  | cs => cs

/-- The text behind `hh:mm:ss`, with a fraction or without. -/
def behindTime (cs : List Char) : Option (List Char) := do
  let (_, cs) ← readBetween 2 0 23 cs
  let (_, cs) ← readBetween 2 0 59 (← readWord [':'] cs)
  let (_, cs) ← readBetween 2 0 60 (← readWord [':'] cs)
  return behindFraction cs

/-- The text behind `Z`, `+hh:mm` or `-hh:mm`. -/
def behindOffset : List Char → Option (List Char)
  | [] => none
  | c :: cs =>
    if c == 'Z' || c == 'z' then some cs
    else if c == '+' || c == '-' then do
      let (_, cs) ← readBetween 2 0 23 cs
      let (_, cs) ← readBetween 2 0 59 (← readWord [':'] cs)
      return cs
    else none

/-- The text behind a time that follows a date, with an offset or without. -/
def behindDelimitedTime : List Char → Option (List Char)
  | [] => none
  | c :: cs =>
    if c == 'T' || c == 't' || c == ' ' then
      (behindTime cs).map fun rest => (behindOffset rest).getD rest
    else none

/-- A date, a time of day, or both. -/
def readTimestamp (cs : List Char) : Option (String × List Char) :=
  let rest? :=
    match behindDate cs with
    | some rest => some ((behindDelimitedTime rest).getD rest)
    | none => behindTime cs
  rest?.map fun rest => (literalOf cs rest, rest)

end RowTypings.Toml
