import RowTypings.Json.FromText

/-!
What a plain scalar of YAML stands for. A plain scalar that looks like null, a boolean or a number
is no text; text that looks like one of them has to be quoted.
-/

namespace RowTypings.Yaml

def isNullWord (s : String) : Bool := s ∈ ["", "~", "null", "Null", "NULL"]

def isBooleanWord (s : String) : Bool := s ∈ ["true", "True", "TRUE", "false", "False", "FALSE"]

def isSpecialNumber (s : String) : Bool :=
  s ∈ [".inf", ".Inf", ".INF", "+.inf", "+.Inf", "+.INF", "-.inf", "-.Inf", "-.INF", ".nan", ".NaN",
    ".NAN"]

def withoutSign : List Char → List Char
  | '+' :: cs => cs
  | '-' :: cs => cs
  | cs => cs

/-- The value of digits in a base, at least one and nothing but digits. -/
def valueInBase? (base : Nat) (digits : List Char) : Option Nat := do
  if digits.isEmpty then none
  digits.foldlM
    (fun v c => do
      let d ←
        if c.isDigit then some (c.toNat - '0'.toNat)
        else if c.isLower then some (c.toNat - 'a'.toNat + 10)
        else if c.isUpper then some (c.toNat - 'A'.toNat + 10)
        else none
      if d < base then some (v * base + d) else none)
    0

/-- A whole number in base 16, 8 or 2 that fits 128 bits with its sign. -/
def isBasedNumber (cs : List Char) : Bool :=
  let bound : Nat := if cs.head? == some '-' then Nat.pow 2 127 + 1 else Nat.pow 2 128
  let fits (base : Nat) (digits : List Char) : Bool := (valueInBase? base digits).any (· < bound)
  match withoutSign cs with
  | '0' :: 'x' :: digits => fits 16 digits
  | '0' :: 'o' :: digits => fits 8 digits
  | '0' :: 'b' :: digits => fits 2 digits
  | _ => false

/-- The exponent that a number ends in, zero if there is none. -/
def exponent? : List Char → Option Int
  | [] => some 0
  | c :: cs =>
    if c == 'e' || c == 'E' then do
      let n : Int := ← valueInBase? 10 (withoutSign cs)
      some (if cs.head? == some '-' then -n else n)
    else none

/-- A decimal number that is not too large for a double; there is a digit before the point or behind
it. -/
def isDecimalNumber (cs : List Char) : Bool :=
  let cs := withoutSign cs
  let whole := cs.takeWhile Char.isDigit
  let rest := cs.dropWhile Char.isDigit
  let (fraction, rest) :=
    match rest with
    | '.' :: rest => (rest.takeWhile Char.isDigit, rest.dropWhile Char.isDigit)
    | rest => ([], rest)
  match exponent? rest with
  | some exponent =>
    !(whole.isEmpty && fraction.isEmpty) &&
      (Decimal.Binary64.ofDecimal false (digitsValue (whole ++ fraction))
        (exponent - fraction.length)).isSome
  | none => false

/-- Digits behind a leading zero. They are no number, but are easily taken for one. -/
def isPaddedNumber (cs : List Char) : Bool :=
  match withoutSign cs with
  | '0' :: digits => !digits.isEmpty && digits.all Char.isDigit
  | _ => false

/-- Whether a text that stands plain would be taken for something else. -/
def looksTyped (s : String) : Bool :=
  isNullWord s || isBooleanWord s || isSpecialNumber s || isBasedNumber s.toList ||
    isDecimalNumber s.toList || isPaddedNumber s.toList

end RowTypings.Yaml
