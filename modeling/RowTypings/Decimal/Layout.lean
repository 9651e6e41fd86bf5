import RowTypings.Decimal.Shortest

/-!
The written form of a double. Which numbers are written with a plain decimal point, and which with
an exponent, is a choice of the format that prints them.
-/

namespace RowTypings.Decimal

/-- A number whose first digit stands for a power of ten between `least` and `greatest` is written
without an exponent. -/
structure PlainRange where
  least : Int
  greatest : Int

def zeros (n : Nat) : String := String.ofList (List.replicate n '0')

/-- `1250`, with its first digit in place `e`, as `1250.0`, `12.5` or `0.00125`. -/
def writePlain (digits : List Char) (e : Int) : String :=
  if e < 0 then "0." ++ zeros (-e - 1).toNat ++ String.ofList digits
  else
    let whole := digits.take (e.toNat + 1)
    let fraction := digits.drop (e.toNat + 1)
    String.ofList whole ++ zeros (e.toNat + 1 - digits.length) ++ "." ++
      (if fraction.isEmpty then "0" else String.ofList fraction)

/-- `125` with its first digit in place 20 as `1.25e+20`. -/
def writeScientific (digits : List Char) (e : Int) : String :=
  let fraction := digits.drop 1
  String.ofList (digits.take 1) ++
    (if fraction.isEmpty then "" else "." ++ String.ofList fraction) ++
    "e" ++ (if e < 0 then "-" else "+") ++ toString e.natAbs

def Binary64.write (range : PlainRange) (x : Binary64) : String :=
  let magnitude :=
    if x.isZero then "0.0"
    else
      let d := x.shortest
      let digits := Nat.toDigits 10 d.digits
      let e := d.exponent + digits.length - 1
      if range.least ≤ e && e ≤ range.greatest then writePlain digits e
      else writeScientific digits e
  if x.negative then "-" ++ magnitude else magnitude

end RowTypings.Decimal
