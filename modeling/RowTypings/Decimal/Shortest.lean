import RowTypings.Decimal.Binary64

/-!
The fewest decimal digits that read back as a given double. For each number of digits there are
two candidates, the neighbours of the double on that decimal grid; the first grid with a candidate
inside the rounding interval wins, and of two such candidates the nearer.
-/

namespace RowTypings.Decimal

/-- The number `digits · 10 ^ exponent`. -/
structure Digits where
  digits : Nat
  exponent : Int
  deriving DecidableEq

namespace Binary64

/-- The exponent of the first decimal digit of `num / den`, for ratios above `10 ^ -400`. -/
def leadingExponent (num den : Nat) : Int :=
  (Nat.toDigits 10 (num * Nat.pow 10 400 / den)).length - 401

/-- The rounding interval of a double in quarters of its last place: everything from `low` to
`high` reads back as `mid`, the ends included when the significand is even. -/
structure Interval where
  low : Nat
  mid : Nat
  high : Nat
  closed : Bool
  exponent : Int

def interval (x : Binary64) : Interval where
  low := 4 * x.significand -
    (if x.significand == Nat.pow 2 52 && x.exponent != leastExponent then 1 else 2)
  mid := 4 * x.significand
  high := 4 * x.significand + 2
  closed := x.significand % 2 == 0
  exponent := x.exponent - 2

/-- The best multiple of `10 ^ t` inside the interval. -/
def Interval.pick (i : Interval) (t : Int) : Option Nat :=
  let scale := Nat.pow 2 i.exponent.toNat * Nat.pow 10 (-t).toNat
  let unit := Nat.pow 2 (-i.exponent).toNat * Nat.pow 10 t.toNat
  let mid := i.mid * scale
  let inside (c : Nat) : Bool :=
    if i.closed then i.low * scale ≤ c * unit && c * unit ≤ i.high * scale
    else i.low * scale < c * unit && c * unit < i.high * scale
  let c := mid / unit
  let below := mid - c * unit
  let above := (c + 1) * unit - mid
  match inside c, inside (c + 1) with
  | true, true => some (if below < above || (below == above && c % 2 == 0) then c else c + 1)
  | true, false => some c
  | false, true => some (c + 1)
  | false, false => none

/-- The shortest digits that read back as the magnitude of `x`; seventeen always suffice. -/
def shortest (x : Binary64) : Digits :=
  let (num, den) := x.ratio
  let k := leadingExponent num den
  let tryCount (n : Nat) : Option Digits :=
    let t := k - n
    (x.interval.pick t).map fun c =>
      if c == Nat.pow 10 (n + 1) then ⟨1, t + n + 1⟩ else ⟨c, t⟩
  ((List.range 17).findSome? tryCount).getD ⟨x.significand, x.exponent⟩

end Binary64

end RowTypings.Decimal
