/-!
Tables of code points. A table is searched from the front, so membership is membership in one of
its entries and the order of the entries does not matter.
-/

namespace RowTypings.Text

/-- Closed intervals of code points. -/
abbrev CodeRanges := List (Nat × Nat)

def CodeRanges.contains (ranges : CodeRanges) (c : Char) : Bool :=
  ranges.any fun r => r.1 ≤ c.toNat && c.toNat ≤ r.2

/-- The code points from `first` to `last` that are whole steps away from `first`. -/
structure CodeStride where
  first : Nat
  last : Nat
  step : Nat

def CodeStride.contains (s : CodeStride) (c : Char) : Bool :=
  s.first ≤ c.toNat && c.toNat ≤ s.last && (c.toNat - s.first) % s.step == 0

abbrev CodeStrides := List CodeStride

def CodeStrides.contains (strides : CodeStrides) (c : Char) : Bool :=
  strides.any fun s => s.contains c

/-- A stride of characters that all have their counterpart at the same distance. -/
structure CaseShift where
  first : Nat
  last : Nat
  step : Nat
  distance : Int

def CaseShift.covers (s : CaseShift) (c : Char) : Bool :=
  CodeStride.contains ⟨s.first, s.last, s.step⟩ c

abbrev CaseShifts := List CaseShift

/-- Characters whose counterpart is a sequence of other than one character. -/
abbrev CaseExpansions := List (Nat × List Nat)

/-- The counterpart of `c`, which is `c` itself when no entry covers it. -/
def convertCase (expansions : CaseExpansions) (shifts : CaseShifts) (c : Char) : List Char :=
  match expansions.lookup c.toNat with
  | some codes => codes.map Char.ofNat
  | none =>
    match shifts.find? fun s => s.covers c with
    | some s => [Char.ofNat (c.toNat + s.distance).toNat]
    | none => [c]

end RowTypings.Text
