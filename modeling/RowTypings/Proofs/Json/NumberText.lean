import RowTypings.Json.FromText
import RowTypings.Proofs.Text.Runs

/-!
Every number is written as one token of the grammar of JSON numbers: a whole part without needless
zeros, then, for a double, digits behind a point or an exponent.
-/

namespace RowTypings

namespace NumberToken

/-! ### The parts of a token -/

/-- Digits, at least one. -/
def DigitRun (ds : List Char) : Prop := ds ≠ [] ∧ ∀ c ∈ ds, c.isDigit = true

/-- Digits of which zero comes first only if it is the only one. -/
def WholeRun (ds : List Char) : Prop := ds = ['0'] ∨ DigitRun ds ∧ ds.head? ≠ some '0'

def Fraction (cs : List Char) : Prop := cs = [] ∨ ∃ ds, DigitRun ds ∧ cs = '.' :: ds

def Exponent (cs : List Char) : Prop :=
  cs = [] ∨ ∃ sign ds, (sign = '+' ∨ sign = '-') ∧ DigitRun ds ∧ cs = 'e' :: sign :: ds

def Magnitude (cs : List Char) : Prop :=
  ∃ whole fraction exponent, WholeRun whole ∧ Fraction fraction ∧ Exponent exponent ∧
    cs = whole ++ (fraction ++ exponent)

/-- A token as numbers are written. -/
def Written (cs : List Char) : Prop := Magnitude cs ∨ ∃ ds, Magnitude ds ∧ cs = '-' :: ds

theorem DigitRun.singleton {c : Char} (h : c.isDigit = true) : DigitRun [c] :=
  ⟨by simp, by simpa using h⟩

theorem WholeRun.digits {ds : List Char} (h : WholeRun ds) : DigitRun ds := by
  rcases h with rfl | h
  · exact .singleton rfl
  · exact h.1

theorem run_toDigits (n : Nat) : DigitRun (Nat.toDigits 10 n) :=
  ⟨Nat.toDigits_ne_nil, fun _ => Nat.isDigit_of_mem_toDigits (by decide) (by decide)⟩

theorem head_toDigits_ne {n : Nat} (h : 0 < n) : (Nat.toDigits 10 n).head? ≠ some '0' := by
  induction n using Nat.strongRecOn with
  | ind n ih =>
      rcases Nat.lt_or_ge n 10 with hlt | hge
      · rw [Nat.toDigits_of_lt_base hlt]
        simpa [Nat.digitChar_eq_zero] using Nat.pos_iff_ne_zero.mp h
      · rw [Nat.toDigits_of_base_le (by decide) hge]
        rw [List.head?_append_of_ne_nil _ Nat.toDigits_ne_nil]
        exact ih (n / 10) (by omega) (by omega)

theorem whole_toDigits (n : Nat) : WholeRun (Nat.toDigits 10 n) := by
  rcases Nat.eq_zero_or_pos n with rfl | hpos
  · exact .inl (Nat.toDigits_zero 10)
  · exact .inr ⟨run_toDigits n, head_toDigits_ne hpos⟩

/-! ### Written tokens are read -/

theorem readWhole_append {ds rest : List Char} (hds : WholeRun ds)
    (hrest : Text.Ends Char.isDigit rest) : readWhole (ds ++ rest) = some (ds, rest) := by
  rcases hds with rfl | ⟨⟨hne, hdigits⟩, hhead⟩
  · rfl
  · have htake := Text.takeWhile_append hdigits hrest
    have hdrop := Text.dropWhile_append hdigits hrest
    unfold readWhole
    split
    · rename_i heq
      cases ds with
      | nil => exact absurd rfl hne
      | cons d ds =>
          cases heq
          exact absurd rfl hhead
    · simp [htake, hdrop, hne]

theorem readFraction_of_ends {rest : List Char} (hrest : Text.Ends (· == '.') rest) :
    readFraction rest = some ([], rest) := by
  unfold readFraction
  split
  · cases hrest '.' rfl
  · rfl

theorem readFraction_point {ds rest : List Char} (hds : DigitRun ds)
    (hrest : Text.Ends Char.isDigit rest) : readFraction ('.' :: ds ++ rest) = some (ds, rest) := by
  rw [List.cons_append, readFraction, Text.takeWhile_append hds.2 hrest,
    Text.dropWhile_append hds.2 hrest, if_neg (by simpa using hds.1)]

theorem readFraction_append {cs rest : List Char} (hcs : Fraction cs)
    (hrest : Text.Ends (fun c => c.isDigit || c == '.') rest) :
    ∃ ds, readFraction (cs ++ rest) = some (ds, rest) := by
  rcases hcs with rfl | ⟨ds, hds, rfl⟩
  · exact ⟨[], readFraction_of_ends fun c hc => (Bool.or_eq_false_iff.mp (hrest c hc)).2⟩
  · exact ⟨ds, readFraction_point hds fun c hc => (Bool.or_eq_false_iff.mp (hrest c hc)).1⟩

theorem isSome_readExponent {cs : List Char} (hcs : Exponent cs) :
    (readExponent cs).isSome = true := by
  rcases hcs with rfl | ⟨sign, ds, hsign, ⟨hne, hdigits⟩, rfl⟩
  · rfl
  · have hall : ds.all Char.isDigit = true := List.all_eq_true.mpr hdigits
    rcases hsign with rfl | rfl
    · simp [readExponent, readSign, hne, hall]
    · simp [readExponent, readSign, hne, hall]

theorem Magnitude.exists_parts {cs : List Char} (h : Magnitude cs) :
    ∃ whole fraction exponent rest rest', readWhole cs = some (whole, rest) ∧
      readFraction rest = some (fraction, rest') ∧ readExponent rest' = some exponent := by
  obtain ⟨whole, fraction, exponent, hwhole, hfraction, hexponent, rfl⟩ := h
  have hpoint : Text.Ends (fun c => c.isDigit || c == '.') exponent := by
    rcases hexponent with rfl | ⟨sign, ds, -, -, rfl⟩
    · exact Text.ends_nil _
    · exact Text.ends_cons rfl
  have hdigit : Text.Ends Char.isDigit (fraction ++ exponent) := by
    rcases hfraction with rfl | ⟨ds, -, rfl⟩
    · exact fun c hc => (Bool.or_eq_false_iff.mp (hpoint c hc)).1
    · exact Text.ends_cons rfl
  obtain ⟨ds, hread⟩ := readFraction_append hfraction hpoint
  obtain ⟨e, he⟩ := Option.isSome_iff_exists.mp (isSome_readExponent hexponent)
  exact ⟨whole, ds, e, _, _, readWhole_append hwhole hdigit, hread, he⟩

theorem Written.isSome {cs : List Char} (h : Written cs) : (ofChars? cs).isSome = true := by
  rcases h with h | ⟨ds, h, rfl⟩
  · obtain ⟨whole, fraction, exponent, rest, rest', hwhole, hfraction, hexponent⟩ := h.exists_parts
    cases cs with
    | nil => cases hwhole
    | cons c cs =>
        have hsign : c ≠ '-' := by
          rintro rfl
          cases hwhole
        simp [ofChars?, hsign, hwhole, hfraction, hexponent]
  · obtain ⟨whole, fraction, exponent, rest, rest', hwhole, hfraction, hexponent⟩ := h.exists_parts
    simp [ofChars?, hwhole, hfraction, hexponent]

/-- A character that can be part of a token. -/
def isPart (c : Char) : Bool :=
  c.isDigit || c == '-' || c == '+' || c == '.' || c == 'e' || c == 'E'

theorem DigitRun.isPart {ds : List Char} (h : DigitRun ds) : ∀ c ∈ ds, isPart c = true := by
  intro c hc
  simp [NumberToken.isPart, h.2 c hc]

theorem Written.isPart {cs : List Char} (h : Written cs) : ∀ c ∈ cs, isPart c = true := by
  have hmagnitude {cs : List Char} (h : Magnitude cs) : ∀ c ∈ cs, NumberToken.isPart c = true := by
    obtain ⟨whole, fraction, exponent, hwhole, hfraction, hexponent, rfl⟩ := h
    refine List.forall_mem_append.mpr ⟨hwhole.digits.isPart, List.forall_mem_append.mpr ⟨?_, ?_⟩⟩
    · rcases hfraction with rfl | ⟨ds, hds, rfl⟩
      · simp
      · exact List.forall_mem_cons.mpr ⟨rfl, hds.isPart⟩
    · rcases hexponent with rfl | ⟨sign, ds, hsign, hds, rfl⟩
      · simp
      · refine List.forall_mem_cons.mpr ⟨rfl, List.forall_mem_cons.mpr ⟨?_, hds.isPart⟩⟩
        rcases hsign with rfl | rfl <;> rfl
  rcases h with h | ⟨ds, h, rfl⟩
  · exact hmagnitude h
  · exact List.forall_mem_cons.mpr ⟨rfl, hmagnitude h⟩

theorem Written.oneLine {cs : List Char} (h : Written cs) : Text.OneLine cs := by
  intro c hc
  have hpart := h.isPart c hc
  simp only [NumberToken.isPart, Bool.or_eq_true, beq_iff_eq] at hpart
  rcases hpart with ((((hdigit | rfl) | rfl) | rfl) | rfl) | rfl
  · have hrange : 48 ≤ c.toNat ∧ c.toNat ≤ 57 := Char.isDigit_iff_toNat.mp hdigit
    rw [Text.isControl_eq_false_iff, Text.isLineBreak_eq_false_iff]
    omega
  all_goals decide

theorem Written.exists_front {cs : List Char} (h : Written cs) :
    ∃ c rest, cs = c :: rest ∧ (c.isDigit = true ∨ c = '-') := by
  rcases h with ⟨whole, fraction, exponent, hwhole, -, -, rfl⟩ | ⟨ds, -, rfl⟩
  · cases whole with
    | nil => exact absurd rfl hwhole.digits.1
    | cons c whole => exact ⟨c, _, rfl, .inl (hwhole.digits.2 c List.mem_cons_self)⟩
  · exact ⟨'-', ds, rfl, .inr rfl⟩

/-! ### Whole numbers -/

theorem magnitude_toDigits (n : Nat) : Magnitude (Nat.toDigits 10 n) :=
  ⟨_, [], [], whole_toDigits n, .inl rfl, .inl rfl, by simp⟩

theorem written_integer (n : Int) : Written (toString n).toList := by
  change Written n.repr.toList
  rw [Int.repr_eq_if]
  split
  · rw [Nat.toList_repr]
    exact .inl (magnitude_toDigits _)
  · rw [String.toList_append, Nat.toList_repr]
    exact .inr ⟨_, magnitude_toDigits _, rfl⟩

end NumberToken

/-! ### Doubles -/

namespace Decimal

open NumberToken

theorem toList_zeros (n : Nat) : (zeros n).toList = List.replicate n '0' := by simp [zeros]

theorem magnitude_writePlain {digits : List Char} (hdigits : DigitRun digits)
    (hhead : digits.head? ≠ some '0') (e : Int) : Magnitude (writePlain digits e).toList := by
  unfold writePlain
  split
  · refine ⟨['0'], '.' :: (List.replicate (-e - 1).toNat '0' ++ digits), [], .inl rfl,
      .inr ⟨_, ⟨?_, ?_⟩, rfl⟩, .inl rfl, ?_⟩
    · simp [hdigits.1]
    · intro c hc
      rcases List.mem_append.mp hc with hc | hc
      · rw [List.eq_of_mem_replicate hc]
        rfl
      · exact hdigits.2 c hc
    · simp [toList_zeros]
  · have hfraction : DigitRun (if (digits.drop (e.toNat + 1)).isEmpty then ['0']
        else digits.drop (e.toNat + 1)) := by
      split
      · exact .singleton rfl
      · rename_i hne
        exact ⟨by simpa using hne, fun c hc => hdigits.2 c (List.mem_of_mem_drop hc)⟩
    refine ⟨digits.take (e.toNat + 1) ++ List.replicate (e.toNat + 1 - digits.length) '0', _, [],
      .inr ⟨⟨?_, ?_⟩, ?_⟩, .inr ⟨_, hfraction, rfl⟩, .inl rfl, ?_⟩
    · simp [hdigits.1]
    · intro c hc
      rcases List.mem_append.mp hc with hc | hc
      · exact hdigits.2 c (List.mem_of_mem_take hc)
      · rw [List.eq_of_mem_replicate hc]
        rfl
    · rw [List.head?_append_of_ne_nil _ (by simp [hdigits.1]), List.head?_take]
      simpa using hhead
    · simp only [String.toList_append, String.toList_ofList, toList_zeros]
      split <;> simp

theorem magnitude_writeScientific {digits : List Char} (hdigits : DigitRun digits)
    (hhead : digits.head? ≠ some '0') (e : Int) :
    Magnitude (writeScientific digits e).toList := by
  have hfraction : Fraction (if (digits.drop 1).isEmpty then [] else '.' :: digits.drop 1) := by
    split
    · exact .inl rfl
    · rename_i hne
      exact .inr ⟨_, ⟨by simpa using hne, fun c hc => hdigits.2 c (List.mem_of_mem_drop hc)⟩, rfl⟩
  refine ⟨digits.take 1, _, 'e' :: (if e < 0 then '-' else '+') :: Nat.toDigits 10 e.natAbs,
    .inr ⟨⟨?_, ?_⟩, ?_⟩, hfraction, .inr ⟨_, _, ?_, run_toDigits _, rfl⟩, ?_⟩
  · simp [hdigits.1]
  · exact fun c hc => hdigits.2 c (List.mem_of_mem_take hc)
  · rw [List.head?_take]
    simpa using hhead
  · split
    · exact .inr rfl
    · exact .inl rfl
  · simp only [writeScientific, String.toList_append, String.toList_ofList, Nat.toString_eq_repr,
      Nat.toList_repr]
    split <;> split <;> simp

namespace Binary64

/-- Nothing in the rounding interval of a number that is not zero is zero. -/
theorem Interval.pick_pos {i : Interval} (hlow : 0 < i.low) {t : Int} {c : Nat}
    (h : i.pick t = some c) : 0 < c := by
  have hleast : i.low * (Nat.pow 2 i.exponent.toNat * Nat.pow 10 (-t).toNat) ≠ 0 := by
    have htwo : 0 < Nat.pow 2 i.exponent.toNat := Nat.pow_pos (by decide)
    have hten : 0 < Nat.pow 10 (-t).toNat := Nat.pow_pos (by decide)
    exact Nat.pos_iff_ne_zero.mp (Nat.mul_pos hlow (Nat.mul_pos htwo hten))
  refine Nat.pos_of_ne_zero ?_
  rintro rfl
  unfold pick at h
  dsimp only at h
  generalize Nat.pow 2 i.exponent.toNat * Nat.pow 10 (-t).toNat = scale at h hleast
  generalize Nat.pow 2 (-i.exponent).toNat * Nat.pow 10 t.toNat = unit at h
  generalize i.mid * scale / unit = below at h
  -- the pick is `below`, which is then inside, or the number after it
  split at h
  · rename_i hinside _
    have hbelow : below = 0 := by
      split_ifs at h
      · exact Option.some.inj h
      · cases h
    subst hbelow
    simp [hleast] at hinside
  · rename_i hinside _
    obtain rfl := Option.some.inj h
    simp [hleast] at hinside
  · cases h
  · cases h

theorem shortest_digits_pos {x : Binary64} (hx : x.isZero = false) : 0 < x.shortest.digits := by
  have hsignificand : 0 < x.significand := Nat.pos_of_ne_zero (by simpa [isZero] using hx)
  have hlow : 0 < x.interval.low := by
    unfold interval
    dsimp only
    split <;> omega
  unfold shortest
  dsimp only
  generalize hfound : List.findSome? _ _ = found
  cases found with
  | none => exact hsignificand
  | some d =>
      obtain ⟨n, -, hn⟩ := List.exists_of_findSome?_eq_some hfound
      obtain ⟨c, hc, rfl⟩ := Option.map_eq_some_iff.mp hn
      rw [Option.getD_some]
      split
      · exact Nat.one_pos
      · exact Interval.pick_pos hlow hc

theorem written_write (range : PlainRange) (x : Binary64) : Written (x.write range).toList := by
  have hsigned : ∀ text : String, Magnitude text.toList →
      Written (if x.negative then "-" ++ text else text).toList := by
    intro text htext
    split
    · exact .inr ⟨_, htext, String.toList_append⟩
    · exact .inl htext
  refine hsigned _ ?_
  split
  · exact ⟨['0'], ['.', '0'], [], .inl rfl, .inr ⟨['0'], .singleton rfl, rfl⟩, .inl rfl, rfl⟩
  · rename_i hzero
    have hdigits := run_toDigits x.shortest.digits
    have hhead := head_toDigits_ne (shortest_digits_pos (Bool.eq_false_iff.mpr hzero))
    dsimp only
    split
    · exact magnitude_writePlain hdigits hhead _
    · exact magnitude_writeScientific hdigits hhead _

end Binary64

end Decimal

theorem Number.written_write (n : Number) : NumberToken.Written n.write.toList := by
  cases n with
  | integer n => exact NumberToken.written_integer n
  | float x => exact x.written_write _

end RowTypings
