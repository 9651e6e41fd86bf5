/-!
Finite double-precision numbers as exact integers, and rounding to them. Everything is done on
`Nat`, so a number read or computed here is the nearest double by definition of `nearest`.
-/

namespace RowTypings.Decimal

/-- The number `±significand · 2 ^ exponent`. In normal form the significand has 53 bits, or the
exponent is the least one. -/
structure Binary64 where
  negative : Bool
  significand : Nat
  exponent : Int
  deriving DecidableEq

namespace Binary64

def leastExponent : Int := -1074

def greatestExponent : Int := 971

def zero (negative : Bool) : Binary64 := ⟨negative, 0, leastExponent⟩

def isZero (x : Binary64) : Bool := x.significand == 0

/-- `num / den` in units of `2 ^ e`, as a ratio. -/
def inUnits (num den : Nat) (e : Int) : Nat × Nat :=
  (num * Nat.pow 2 (-e).toNat, den * Nat.pow 2 e.toNat)

/-- The nearest whole number to `num / den`; a half goes to the even neighbour. -/
def roundHalfEven (num den : Nat) : Nat :=
  let q := num / den
  let r := num % den
  if den < 2 * r || (2 * r == den && q % 2 == 1) then q + 1 else q

/-- The exponent at which the whole part of `num / den` has 53 bits, but no less than the least. -/
def unitExponent (num den : Nat) : Int :=
  let e : Int := (num.log2 : Int) - den.log2 - 52
  let (n, d) := inUnits num den e
  max leastExponent (if n / d < Nat.pow 2 52 then e - 1 else e)

/-- The double nearest to `num / den`, if the ratio is not too large for every double. -/
def nearest (negative : Bool) (num den : Nat) : Option Binary64 :=
  if num == 0 then some (zero negative)
  else
    let e := unitExponent num den
    let (n, d) := inUnits num den e
    let m := roundHalfEven n d
    let (m, e) := if m == Nat.pow 2 53 then (Nat.pow 2 52, e + 1) else (m, e)
    if greatestExponent < e then none else some ⟨negative, m, e⟩

/-- The numerator and denominator of the magnitude of `x`. -/
def ratio (x : Binary64) : Nat × Nat :=
  (x.significand * Nat.pow 2 x.exponent.toNat, Nat.pow 2 (-x.exponent).toNat)

def mul (x y : Binary64) : Option Binary64 :=
  let (a, b) := x.ratio
  let (c, d) := y.ratio
  nearest (x.negative != y.negative) (a * c) (b * d)

/-- The rounded quotient by a number that is not zero. -/
def div (x y : Binary64) : Option Binary64 :=
  let (a, b) := x.ratio
  let (c, d) := y.ratio
  nearest (x.negative != y.negative) (a * d) (b * c)

/-- The nearest double to `±digits · 10 ^ exponent`. Powers that are out of reach of every double
are not computed. -/
def ofDecimal (negative : Bool) (digits : Nat) (exponent : Int) : Option Binary64 :=
  let magnitude : Int := (Nat.toDigits 10 digits).length + exponent
  if digits == 0 || magnitude < -330 then some (zero negative)
  else if 330 < magnitude then none
  else nearest negative (digits * Nat.pow 10 exponent.toNat) (Nat.pow 10 (-exponent).toNat)

end Binary64

end RowTypings.Decimal
