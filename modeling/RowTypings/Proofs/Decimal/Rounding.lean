import Mathlib.Algebra.Order.Field.Basic
import Mathlib.Algebra.Order.Field.Power
import Mathlib.Algebra.Order.Ring.Rat
import Mathlib.Data.Nat.Cast.Order.Ring
import Mathlib.Tactic.FieldSimp
import Mathlib.Tactic.Linarith
import Mathlib.Tactic.NormNum
import Mathlib.Tactic.Positivity
import Mathlib.Tactic.Ring
import RowTypings.Decimal.Binary64

/-!
Rounding to doubles, told in exact numbers. A ratio gives a double in normal form that lies within
half a unit in the last place of it; there is none exactly from half a unit above the greatest
double on.
-/

namespace RowTypings.Decimal.Binary64

/-! ### Exact numbers -/

def magnitude (x : Binary64) : ℚ := x.significand * 2 ^ x.exponent

/-- Half a unit above the greatest double. -/
def overflow : ℚ := (2 ^ 53 - 1 / 2) * 2 ^ greatestExponent

theorem overflow_pos : 0 < overflow :=
  mul_pos (by norm_num) (zpow_pos two_pos _)

/-- The double is in normal form, and within half a unit in its last place of `v`. -/
structure Rounds (v : ℚ) (x : Binary64) : Prop where
  small : x.significand < 2 ^ 53
  leading : 2 ^ 52 ≤ x.significand ∨ x.exponent = leastExponent
  least : leastExponent ≤ x.exponent
  greatest : x.exponent ≤ greatestExponent
  near : |x.magnitude - v| ≤ 2 ^ x.exponent / 2

theorem rounds_zero (negative : Bool) {v : ℚ} (hv : 0 ≤ v) (hsmall : v ≤ 2 ^ leastExponent / 2) :
    Rounds v (zero negative) where
  small := Nat.pow_pos (by decide)
  leading := .inr rfl
  least := Int.le_refl _
  greatest := by simp [zero, leastExponent, greatestExponent]
  near := by
    have hmagnitude : (zero negative).magnitude = 0 := by simp [magnitude, zero]
    rw [hmagnitude, zero_sub, abs_neg, abs_of_nonneg hv]
    exact hsmall

/-- A power as the ratio that its sign makes of it. -/
theorem zpow_eq_div {b : ℚ} (hb : b ≠ 0) (e : Int) :
    b ^ e = b ^ e.toNat / b ^ (-e).toNat := by
  conv_lhs => rw [← Int.toNat_sub_toNat_neg e]
  rw [zpow_sub₀ hb, zpow_natCast, zpow_natCast]

theorem inUnits_den_pos {den : Nat} (hden : 0 < den) (num : Nat) (e : Int) :
    0 < (inUnits num den e).2 :=
  Nat.mul_pos hden (Nat.pow_pos (by decide))

theorem inUnits_ratio (num den : Nat) (e : Int) :
    ((inUnits num den e).1 : ℚ) / (inUnits num den e).2 = num / den / 2 ^ e := by
  have hunits : ((inUnits num den e).1 : ℚ) = num * 2 ^ (-e).toNat ∧
      ((inUnits num den e).2 : ℚ) = den * 2 ^ e.toNat := by
    constructor
    · exact_mod_cast rfl
    · exact_mod_cast rfl
  rw [hunits.1, hunits.2, zpow_eq_div two_ne_zero, div_div_div_eq, mul_comm (den : ℚ)]

/-! ### Halves -/

section Halves

variable {num den : Nat}

theorem ratio_eq_add_mod (hden : 0 < den) :
    (num : ℚ) / den = (num / den : Nat) + (num % den : Nat) / den := by
  have hpos : (den : ℚ) ≠ 0 := by exact_mod_cast hden.ne'
  rw [add_div' _ _ _ hpos]
  congr 1
  exact_mod_cast (Nat.div_add_mod' num den).symm

theorem roundHalfEven_cases (num den : Nat) :
    (roundHalfEven num den = num / den + 1 ∧ den ≤ 2 * (num % den)) ∨
      (roundHalfEven num den = num / den ∧ 2 * (num % den) ≤ den ∧
        (2 * (num % den) = den → num / den % 2 = 0)) := by
  simp only [roundHalfEven, Bool.or_eq_true, Bool.and_eq_true, decide_eq_true_eq, beq_iff_eq]
  split_ifs with hup
  · exact .inl ⟨rfl, by omega⟩
  · exact .inr ⟨rfl, by omega, by omega⟩

theorem roundHalfEven_near (num : Nat) (hden : 0 < den) :
    |(roundHalfEven num den : ℚ) - num / den| ≤ 1 / 2 := by
  have hpos : (0 : ℚ) < den := by exact_mod_cast hden
  rw [ratio_eq_add_mod hden, abs_le]
  have hrest : ((num % den : Nat) : ℚ) / den < 1 := by
    rw [div_lt_one hpos]
    exact_mod_cast Nat.mod_lt num hden
  have hnonneg : 0 ≤ ((num % den : Nat) : ℚ) / den := by positivity
  rcases roundHalfEven_cases num den with ⟨hround, hhalf⟩ | ⟨hround, hhalf, -⟩
  · have hge : 1 / 2 ≤ ((num % den : Nat) : ℚ) / den := by
      rw [div_le_div_iff₀ two_pos hpos]
      exact_mod_cast (by omega : 1 * den ≤ num % den * 2)
    rw [hround, Nat.cast_add_one]
    constructor <;> linarith
  · have hle : ((num % den : Nat) : ℚ) / den ≤ 1 / 2 := by
      rw [div_le_div_iff₀ hpos two_pos]
      exact_mod_cast (by omega : num % den * 2 ≤ 1 * den)
    rw [hround]
    constructor <;> linarith

/-- What is rounded to less than an even number is nearer than half to the number before. -/
theorem lt_of_roundHalfEven_lt (hden : 0 < den) {k : Nat} (heven : k % 2 = 0)
    (h : roundHalfEven num den < k) : (num : ℚ) / den < k - 1 / 2 := by
  have hpos : (0 : ℚ) < den := by exact_mod_cast hden
  have hwhole : 2 * num < (2 * k - 1) * den := by
    have hsplit := Nat.div_add_mod' num den
    have hmod := Nat.mod_lt num hden
    have hscale {a b : Nat} (hab : a ≤ b) : a * den ≤ b * den := Nat.mul_le_mul_right den hab
    rcases roundHalfEven_cases num den with ⟨hround, -⟩ | ⟨hround, hhalf, htie⟩
    · have hle := hscale (by omega : 2 * (num / den) + 3 ≤ 2 * k - 1)
      rw [Nat.add_mul, Nat.mul_assoc] at hle
      omega
    · rcases Nat.lt_or_eq_of_le hhalf with hlt | heq
      · have hle := hscale (by omega : 2 * (num / den) + 1 ≤ 2 * k - 1)
        rw [Nat.add_mul, Nat.mul_assoc] at hle
        omega
      · have htwo := htie heq
        have hle := hscale (by omega : 2 * (num / den) + 3 ≤ 2 * k - 1)
        rw [Nat.add_mul, Nat.mul_assoc] at hle
        omega
  have hcast : (2 * num : ℚ) < (2 * k - 1) * den := by
    have hk : ((2 * k - 1 : Nat) : ℚ) = 2 * k - 1 := by
      rw [Nat.cast_sub (by omega)]
      push_cast
      rfl
    rw [← hk]
    exact_mod_cast hwhole
  rw [div_lt_iff₀ hpos]
  linarith

end Halves

/-! ### Units -/

section Units

variable {num den : Nat}

theorem inUnits_div_lt_iff (hden : 0 < den) (k : Nat) (e : Int) :
    (inUnits num den e).1 / (inUnits num den e).2 < k ↔ (num : ℚ) / den < k * 2 ^ e := by
  have hpos := inUnits_den_pos hden num e
  have hcast : (0 : ℚ) < (inUnits num den e).2 := by exact_mod_cast hpos
  rw [Nat.div_lt_iff_lt_mul hpos, ← div_lt_iff₀ (zpow_pos two_pos e), ← inUnits_ratio,
    div_lt_iff₀ hcast]
  exact_mod_cast Iff.rfl

/-- The powers of two around a number. -/
theorem log2_bounds {n : Nat} (hn : n ≠ 0) :
    (2 : ℚ) ^ (n.log2 : Int) ≤ n ∧ (n : ℚ) < 2 ^ (n.log2 + 1 : Int) := by
  constructor
  · rw [zpow_natCast]
    exact_mod_cast Nat.log2_self_le hn
  · rw [← Nat.cast_add_one, zpow_natCast]
    exact_mod_cast Nat.lt_log2_self

theorem leastExponent_le_unitExponent (num den : Nat) : leastExponent ≤ unitExponent num den :=
  Int.le_max_left _ _

/-- The exponent that gives the whole part of a ratio 53 bits. -/
theorem exists_unitExponent_eq (hnum : num ≠ 0) (hden : 0 < den) :
    ∃ e, unitExponent num den = max leastExponent e ∧
      (num : ℚ) / den < 2 ^ 53 * 2 ^ e ∧ 2 ^ 52 * 2 ^ e ≤ (num : ℚ) / den := by
  obtain ⟨hnumLow, hnumHigh⟩ := log2_bounds hnum
  obtain ⟨hdenLow, hdenHigh⟩ := log2_bounds hden.ne'
  have hpos : (0 : ℚ) < den := by exact_mod_cast hden
  have hshift (a b : Int) : (2 : ℚ) ^ a * 2 ^ b = 2 ^ (a + b) := (zpow_add₀ two_ne_zero a b).symm
  have hunfold : unitExponent num den = max leastExponent
      (if (inUnits num den (num.log2 - den.log2 - 52)).1 /
          (inUnits num den (num.log2 - den.log2 - 52)).2 < 2 ^ 52
        then num.log2 - den.log2 - 52 - 1 else num.log2 - den.log2 - 52) := rfl
  rw [hunfold]
  set e : Int := num.log2 - den.log2 - 52 with he
  have hhigh : (num : ℚ) / den < 2 ^ 53 * 2 ^ e := by
    rw [div_lt_iff₀ hpos]
    calc (num : ℚ) < 2 ^ (num.log2 + 1 : Int) := hnumHigh
      _ = 2 ^ 53 * 2 ^ e * 2 ^ (den.log2 : Int) := by
        rw [← zpow_natCast, hshift, hshift, he]
        congr 1
        push_cast
        ring
      _ ≤ 2 ^ 53 * 2 ^ e * den := by gcongr
  have hlow : 2 ^ 52 * 2 ^ (e - 1) ≤ (num : ℚ) / den := by
    rw [le_div_iff₀ hpos]
    calc (2 : ℚ) ^ 52 * 2 ^ (e - 1) * den ≤ 2 ^ 52 * 2 ^ (e - 1) * 2 ^ (den.log2 + 1 : Int) := by
          gcongr
      _ = 2 ^ (num.log2 : Int) := by
        rw [← zpow_natCast, hshift, hshift, he]
        congr 1
        push_cast
        ring
      _ ≤ num := hnumLow
  refine ⟨_, rfl, ?_⟩
  split_ifs with hbits
  · refine ⟨?_, hlow⟩
    calc (num : ℚ) / den < (2 ^ 52 : Nat) * 2 ^ e := (inUnits_div_lt_iff hden _ e).mp hbits
      _ = 2 ^ 53 * 2 ^ (e - 1) := by
        rw [zpow_sub_one₀ two_ne_zero]
        push_cast
        ring
  · refine ⟨hhigh, not_lt.mp fun hlt => hbits ((inUnits_div_lt_iff hden _ e).mpr ?_)⟩
    exact_mod_cast hlt

/-- Told in its unit, a ratio is below `2 ^ 53`, and not below `2 ^ 52` unless the unit is the
least. -/
theorem unitExponent_bounds (hnum : num ≠ 0) (hden : 0 < den) :
    (num : ℚ) / den < 2 ^ 53 * 2 ^ unitExponent num den ∧
      (2 ^ 52 * 2 ^ unitExponent num den ≤ (num : ℚ) / den ∨
        unitExponent num den = leastExponent) := by
  obtain ⟨e, heq, hhigh, hlow⟩ := exists_unitExponent_eq hnum hden
  rw [heq]
  constructor
  · calc (num : ℚ) / den < 2 ^ 53 * 2 ^ e := hhigh
      _ ≤ 2 ^ 53 * 2 ^ max leastExponent e := by
        gcongr
        · exact one_le_two
        · exact Int.le_max_right _ _
  · rcases Int.le_total e leastExponent with hle | hle
    · exact .inr (Int.max_eq_left hle)
    · rw [Int.max_eq_right hle]
      exact .inl hlow

end Units

/-! ### Nearest doubles -/

section Nearest

variable {negative : Bool} {num den : Nat}

/-- The significand and the exponent, before they are checked against the greatest exponent. -/
theorem nearest_eq (hnum : num ≠ 0) :
    nearest negative num den =
      let e := unitExponent num den
      let m := roundHalfEven (inUnits num den e).1 (inUnits num den e).2
      if m = 2 ^ 53 then
        if greatestExponent < e + 1 then none else some ⟨negative, 2 ^ 52, e + 1⟩
      else if greatestExponent < e then none else some ⟨negative, m, e⟩ := by
  have hzero : (num == 0) = false := by simpa using hnum
  simp only [nearest, hzero, Bool.false_eq_true, if_false, beq_iff_eq]
  split
  · rename_i hcarry
    rw [if_pos (show _ = 2 ^ 53 from hcarry)]
    rfl
  · rename_i hcarry
    rw [if_neg (show ¬_ = 2 ^ 53 from hcarry)]

/-- The rounded significand, in units of `2 ^ e`, is within half a unit. -/
theorem roundHalfEven_inUnits_near (num : Nat) (hden : 0 < den) (e : Int) :
    |(roundHalfEven (inUnits num den e).1 (inUnits num den e).2 : ℚ) * 2 ^ e - num / den| ≤
      2 ^ e / 2 := by
  have hunit : (0 : ℚ) < 2 ^ e := zpow_pos two_pos e
  have hnear := roundHalfEven_near (inUnits num den e).1 (inUnits_den_pos hden num e)
  rw [inUnits_ratio] at hnear
  have hscale (m v : ℚ) : m * 2 ^ e - v = (m - v / 2 ^ e) * 2 ^ e := by field_simp
  rw [hscale, abs_mul, abs_of_pos hunit]
  linarith [mul_le_mul_of_nonneg_right hnear hunit.le]

/-- What is rounded to less than an even number of units is nearer than half a unit to the number
before. -/
theorem lt_of_roundHalfEven_inUnits_lt (hden : 0 < den) {k : Nat} (heven : k % 2 = 0) {e : Int}
    (h : roundHalfEven (inUnits num den e).1 (inUnits num den e).2 < k) :
    (num : ℚ) / den < (k - 1 / 2) * 2 ^ e := by
  have hlt := lt_of_roundHalfEven_lt (inUnits_den_pos hden num e) heven h
  rwa [inUnits_ratio, div_lt_iff₀ (zpow_pos two_pos e)] at hlt

/-- Half a unit above the greatest significand, at growing exponents. -/
theorem top_mono {e e' : Int} (h : e ≤ e') :
    ((2 : ℚ) ^ 53 - 1 / 2) * 2 ^ e ≤ (2 ^ 53 - 1 / 2) * 2 ^ e' := by
  gcongr
  exact one_le_two

/-- A significand at a greater exponent than the greatest is at least the overflow. -/
theorem overflow_le_of_lt {e : Int} (h : greatestExponent < e) : overflow ≤ 2 ^ 52 * 2 ^ e := by
  calc overflow ≤ 2 ^ 52 * 2 ^ (greatestExponent + 1) := by
        rw [overflow, zpow_add_one₀ two_ne_zero, mul_comm (2 ^ greatestExponent), ← mul_assoc]
        gcongr
        norm_num
    _ ≤ 2 ^ 52 * 2 ^ e := by
        gcongr
        · exact one_le_two
        · exact h

/-! The significand may be rounded up to the next power of two, and then carries over. -/

section Significand

variable {v : ℚ} {m : Nat} {e : Int}

theorem carry_eq (e : Int) : (2 : ℚ) ^ 52 * 2 ^ (e + 1) = (2 ^ 53 : Nat) * 2 ^ e := by
  rw [zpow_add_one₀ two_ne_zero]
  push_cast
  ring

theorem overflow_le_of_carry (hnear : |((2 ^ 53 : Nat) : ℚ) * 2 ^ e - v| ≤ 2 ^ e / 2)
    (hgreat : greatestExponent < e + 1) : overflow ≤ v := by
  have hover := (abs_le.mp hnear).2
  push_cast at hover
  calc overflow ≤ (2 ^ 53 - 1 / 2) * 2 ^ e := top_mono (Int.lt_add_one_iff.mp hgreat)
    _ ≤ v := by linarith

theorem rounds_of_carry (negative : Bool) (hhigh : v < 2 ^ 53 * 2 ^ e)
    (hnear : |((2 ^ 53 : Nat) : ℚ) * 2 ^ e - v| ≤ 2 ^ e / 2) (hleast : leastExponent ≤ e)
    (hgreat : e + 1 ≤ greatestExponent) :
    v < overflow ∧ Rounds v ⟨negative, 2 ^ 52, e + 1⟩ := by
  constructor
  · calc v < 2 ^ 52 * 2 ^ (e + 1) := by
          rw [carry_eq]
          exact_mod_cast hhigh
      _ ≤ (2 ^ 53 - 1 / 2) * 2 ^ (e + 1) := by
        gcongr
        norm_num
      _ ≤ overflow := top_mono hgreat
  · refine ⟨by norm_num, .inl le_rfl, Int.le_add_one hleast, hgreat, ?_⟩
    have hmagnitude : magnitude ⟨negative, 2 ^ 52, e + 1⟩ = (2 ^ 53 : Nat) * 2 ^ e := by
      rw [← carry_eq, magnitude]
      push_cast
      rfl
    rw [hmagnitude]
    calc |((2 ^ 53 : Nat) : ℚ) * 2 ^ e - v| ≤ 2 ^ e / 2 := hnear
      _ ≤ 2 ^ (e + 1) / 2 := by
        gcongr
        · exact one_le_two
        · exact Int.le_add_one le_rfl

theorem le_of_near (hhigh : v < 2 ^ 53 * 2 ^ e) (hnear : |(m : ℚ) * 2 ^ e - v| ≤ 2 ^ e / 2) :
    m ≤ 2 ^ 53 := by
  have hunit : (0 : ℚ) < 2 ^ e := zpow_pos two_pos e
  have hover := (abs_le.mp hnear).2
  have hlt : (m : ℚ) < 2 ^ 53 + 1 := by
    refine lt_of_mul_lt_mul_right ?_ hunit.le
    linarith
  exact Nat.lt_succ_iff.mp (by exact_mod_cast hlt)

theorem le_significand_of_near (hlow : 2 ^ 52 * 2 ^ e ≤ v)
    (hnear : |(m : ℚ) * 2 ^ e - v| ≤ 2 ^ e / 2) : 2 ^ 52 ≤ m := by
  have hunit : (0 : ℚ) < 2 ^ e := zpow_pos two_pos e
  have hunder := (abs_le.mp hnear).1
  have hlt : (2 : ℚ) ^ 52 < m + 1 := by
    refine lt_of_mul_lt_mul_right ?_ hunit.le
    linarith
  exact Nat.lt_succ_iff.mp (by exact_mod_cast hlt)

end Significand

theorem nearest_cases (hden : 0 < den) :
    (overflow ≤ (num : ℚ) / den ∧ nearest negative num den = none) ∨
      ((num : ℚ) / den < overflow ∧
        ∃ x, nearest negative num den = some x ∧ x.negative = negative ∧
          Rounds ((num : ℚ) / den) x) := by
  rcases Nat.eq_zero_or_pos num with rfl | hnum
  · refine .inr ⟨?_, _, rfl, rfl, ?_⟩
    · rw [Nat.cast_zero, zero_div]
      exact overflow_pos
    · rw [Nat.cast_zero, zero_div]
      exact rounds_zero negative le_rfl (by positivity)
  rw [nearest_eq hnum.ne']
  obtain ⟨hhigh, hlow⟩ := unitExponent_bounds hnum.ne' hden
  have hleast := leastExponent_le_unitExponent num den
  dsimp only
  generalize unitExponent num den = e at hhigh hlow hleast
  have hnear := roundHalfEven_inUnits_near num hden e
  have hbelow : roundHalfEven (inUnits num den e).1 (inUnits num den e).2 < 2 ^ 53 →
      (num : ℚ) / den < ((2 ^ 53 : Nat) - 1 / 2) * 2 ^ e :=
    lt_of_roundHalfEven_inUnits_lt hden (by decide)
  generalize roundHalfEven (inUnits num den e).1 (inUnits num den e).2 = m at hnear hbelow
  generalize (num : ℚ) / den = v at hhigh hlow hnear hbelow
  split_ifs with hcarry hgreat hgreat
  · exact .inl ⟨overflow_le_of_carry (hcarry ▸ hnear) hgreat, rfl⟩
  · obtain ⟨hsmall, hrounds⟩ :=
      rounds_of_carry negative hhigh (hcarry ▸ hnear) hleast (not_lt.mp hgreat)
    exact .inr ⟨hsmall, _, rfl, rfl, hrounds⟩
  · refine .inl ⟨(overflow_le_of_lt hgreat).trans (hlow.resolve_right ?_), rfl⟩
    rintro rfl
    exact absurd hgreat (by decide)
  · have hsmall : m < 2 ^ 53 := lt_of_le_of_ne (le_of_near hhigh hnear) hcarry
    have hleading := hlow.imp (fun hbits => le_significand_of_near hbits hnear) id
    refine .inr ⟨?_, _, rfl, rfl, hsmall, hleading, hleast, not_lt.mp hgreat, hnear⟩
    calc v < (2 ^ 53 - 1 / 2) * 2 ^ e := by exact_mod_cast hbelow hsmall
      _ ≤ overflow := top_mono (not_lt.mp hgreat)

end Nearest

/-! ### Decimals -/

section Decimals

variable {negative : Bool} {digits : Nat} {exponent : Int}

theorem decimal_eq_ratio (digits : Nat) (exponent : Int) :
    (digits : ℚ) * 10 ^ exponent =
      ((digits * Nat.pow 10 exponent.toNat : Nat) : ℚ) / (Nat.pow 10 (-exponent).toNat : Nat) := by
  rw [zpow_eq_div (by norm_num) exponent, ← mul_div_assoc]
  exact_mod_cast rfl

/-- The number of digits tells the power of ten above a decimal number. -/
theorem decimal_bounds (hdigits : digits ≠ 0) (exponent : Int) :
    (10 : ℚ) ^ ((Nat.toDigits 10 digits).length + exponent - 1) ≤ digits * 10 ^ exponent ∧
      (digits : ℚ) * 10 ^ exponent < 10 ^ ((Nat.toDigits 10 digits).length + exponent) := by
  have hten : (10 : ℚ) ≠ 0 := by norm_num
  obtain ⟨k, hk⟩ : ∃ k, (Nat.toDigits 10 digits).length = k + 1 :=
    Nat.exists_eq_succ_of_ne_zero (by simp)
  have hhigh : digits < 10 ^ (k + 1) :=
    (Nat.length_toDigits_le_iff (by decide) k.succ_pos).mp hk.le
  have hlow : 10 ^ k ≤ digits := by
    rcases Nat.eq_zero_or_pos k with rfl | hpos
    · exact Nat.one_le_iff_ne_zero.mpr hdigits
    · refine not_lt.mp fun hlt => ?_
      have hshort := (Nat.length_toDigits_le_iff (by decide) hpos).mpr hlt
      omega
  have hsplit : ((k + 1 : Nat) : Int) + exponent - 1 = k + exponent := by
    push_cast
    ring
  rw [hk, hsplit, zpow_add₀ hten, zpow_add₀ hten, zpow_natCast, zpow_natCast]
  constructor
  · gcongr
    exact_mod_cast hlow
  · gcongr
    exact_mod_cast hhigh

theorem two_pow_le_ten_pow : (2 : ℚ) ^ 1075 ≤ 10 ^ 325 :=
  calc (2 : ℚ) ^ 1075 = (2 ^ 43) ^ 25 := (pow_mul 2 43 25)
    _ ≤ (10 ^ 13) ^ 25 := by
      gcongr
      norm_num
    _ = 10 ^ 325 := (pow_mul 10 13 25).symm

/-- What is below every double that is not zero. -/
theorem le_half_least_of_lt {v : ℚ} {magnitude : Int} (h : v < 10 ^ magnitude)
    (hmagnitude : magnitude < -330) : v ≤ 2 ^ leastExponent / 2 :=
  calc v ≤ 10 ^ magnitude := h.le
    _ ≤ 10 ^ (-325 : Int) := by
      gcongr
      · norm_num
      · omega
    _ = (10 ^ 325)⁻¹ := zpow_neg_coe_of_pos 10 (by decide)
    _ ≤ (2 ^ 1075)⁻¹ := by
      gcongr
      exact two_pow_le_ten_pow
    _ = 2 ^ leastExponent / 2 := by
      rw [leastExponent, ← zpow_neg_coe_of_pos 2 (by decide), div_eq_mul_inv,
        ← zpow_sub_one₀ two_ne_zero]
      rfl

theorem half_least_lt_overflow : (2 : ℚ) ^ leastExponent / 2 < overflow :=
  calc (2 : ℚ) ^ leastExponent / 2 < (2 ^ 53 - 1 / 2) * 2 ^ leastExponent := by
        rw [div_eq_inv_mul]
        gcongr
        norm_num
    _ ≤ overflow := top_mono (by decide)

/-- What is above every double. -/
theorem overflow_le_of_le {v : ℚ} {magnitude : Int} (h : 10 ^ (magnitude - 1) ≤ v)
    (hmagnitude : 330 < magnitude) : overflow ≤ v :=
  calc overflow ≤ 2 ^ 104 * 2 ^ greatestExponent := by
        rw [overflow]
        gcongr
        norm_num
    _ = 2 ^ 1075 := by
        rw [greatestExponent, ← zpow_natCast, ← zpow_add₀ two_ne_zero, ← zpow_natCast]
        rfl
    _ ≤ 10 ^ 325 := two_pow_le_ten_pow
    _ = 10 ^ (325 : Int) := (zpow_natCast 10 325).symm
    _ ≤ 10 ^ (magnitude - 1) := by
        gcongr
        · norm_num
        · omega
    _ ≤ v := h

/-- A decimal number is none exactly from the overflow on, and else it is rounded, with the sign it
has. -/
theorem ofDecimal_cases (negative : Bool) (digits : Nat) (exponent : Int) :
    (overflow ≤ (digits : ℚ) * 10 ^ exponent ∧ ofDecimal negative digits exponent = none) ∨
      ((digits : ℚ) * 10 ^ exponent < overflow ∧
        ∃ x, ofDecimal negative digits exponent = some x ∧ x.negative = negative ∧
          Rounds (digits * 10 ^ exponent) x) := by
  have hpos : 0 < Nat.pow 10 (-exponent).toNat := Nat.pow_pos (by decide)
  simp only [ofDecimal, Bool.or_eq_true, beq_iff_eq, decide_eq_true_eq]
  rcases Nat.eq_zero_or_pos digits with rfl | hdigits
  · rw [if_pos (.inl rfl), Nat.cast_zero, zero_mul]
    exact .inr ⟨overflow_pos, _, rfl, rfl, rounds_zero negative le_rfl (by positivity)⟩
  obtain ⟨hlow, hhigh⟩ := decimal_bounds hdigits.ne' exponent
  split_ifs with hsmall hlarge
  · have htiny := le_half_least_of_lt hhigh (hsmall.resolve_left hdigits.ne')
    exact .inr ⟨htiny.trans_lt half_least_lt_overflow, _, rfl, rfl,
      rounds_zero negative (by positivity) htiny⟩
  · exact .inl ⟨overflow_le_of_le hlow hlarge, rfl⟩
  · rw [decimal_eq_ratio]
    exact nearest_cases hpos

end Decimals

end RowTypings.Decimal.Binary64
