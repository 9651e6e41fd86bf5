import RowTypings.Proofs.Json.NumberText
import RowTypings.Proofs.Time.Stamp

/-!
Numbers and booleans read from their own texts. A whole number that fits a word is read from its
decimal text as that number and as nothing else; the two booleans are read from theirs.
-/

namespace RowTypings

/-! ### Digits -/

theorem digitsValue_eq_ofDigitChars (ds : List Char) :
    digitsValue ds = Nat.ofDigitChars 10 ds 0 := by
  simp only [digitsValue, Nat.ofDigitChars_eq_foldl, Nat.mul_comm]

theorem digitsValue_toDigits (n : Nat) : digitsValue (Nat.toDigits 10 n) = n := by
  rw [digitsValue_eq_ofDigitChars, Nat.ofDigitChars_ten_toDigits]

namespace NumberToken

/-- The characters of a whole number. -/
def integerChars (n : Int) : List Char :=
  (if n < 0 then ['-'] else []) ++ Nat.toDigits 10 n.natAbs

theorem toList_toString (n : Int) : (toString n).toList = integerChars n := by
  change n.repr.toList = _
  rw [Int.repr_eq_if, integerChars]
  split
  · rename_i h
    rw [Nat.toList_repr, if_neg (by omega), List.nil_append, show n.toNat = n.natAbs by omega]
  · rename_i h
    rw [String.toList_append, Nat.toList_repr, if_pos (by omega),
      show (-n).toNat = n.natAbs by omega]
    rfl

theorem isDigit_of_mem_toDigits {n : Nat} {c : Char} (h : c ∈ Nat.toDigits 10 n) :
    c.isDigit = true :=
  (run_toDigits n).2 c h

theorem isDigit_of_mem_tail {n : Int} {c : Char} (h : c ∈ (integerChars n).tail) :
    c.isDigit = true := by
  unfold integerChars at h
  split at h
  · exact isDigit_of_mem_toDigits h
  · exact isDigit_of_mem_toDigits (List.mem_of_mem_tail h)

theorem ofChars?_integerChars (n : Int) :
    ofChars? (integerChars n) = some ⟨decide (n < 0), Nat.toDigits 10 n.natAbs, [], none⟩ := by
  have hwhole : readWhole (Nat.toDigits 10 n.natAbs) = some (Nat.toDigits 10 n.natAbs, []) := by
    have hread := readWhole_append (whole_toDigits n.natAbs) (Text.ends_nil Char.isDigit)
    rwa [List.append_nil] at hread
  unfold integerChars
  split
  · rename_i h
    simp [ofChars?, hwhole, readFraction, readExponent, h]
  · rename_i h
    cases hdigits : Nat.toDigits 10 n.natAbs with
    | nil => exact absurd hdigits Nat.toDigits_ne_nil
    | cons c rest =>
        have hsign : c ≠ '-' := by
          rintro rfl
          have hdigit := isDigit_of_mem_toDigits (hdigits ▸ List.mem_cons_self)
          cases hdigit
        rw [hdigits] at hwhole
        simp [ofChars?, hsign, hwhole, readFraction, readExponent, h]

theorem integer?_integerChars (n : Int) :
    integer? ⟨decide (n < 0), Nat.toDigits 10 n.natAbs, [], none⟩ = some n := by
  simp only [integer?, digitsValue_toDigits, List.isEmpty_nil, Option.isNone_none, Bool.and_self,
    if_true, decide_eq_true_eq, Option.some.injEq]
  omega

theorem isBlank_of_isPart {c : Char} (h : isPart c = true) : Text.isBlank c = false := by
  simp only [isPart, Bool.or_eq_true, beq_iff_eq] at h
  rcases h with ((((hdigit | rfl) | rfl) | rfl) | rfl) | rfl
  · have hrange : 48 ≤ c.toNat ∧ c.toNat ≤ 57 := Char.isDigit_iff_toNat.mp hdigit
    simp only [Text.isBlank, Bool.or_eq_false_iff, Bool.and_eq_false_iff, beq_eq_false_iff_ne,
      decide_eq_false_iff_not]
    omega
  all_goals decide

end NumberToken

/-! ### Numbers -/

namespace Number

theorem trimmed_write (n : Number) : Text.Trimmed n.write.toList :=
  Text.trimmed_of_forall fun c hc => NumberToken.isBlank_of_isPart (n.written_write.isPart c hc)

theorem trim_write (n : Number) : Text.trim n.write = n.write :=
  Text.trim_eq_self n.trimmed_write

theorem isBlankText_write (n : Number) : Text.isBlankText n.write = false := by
  obtain ⟨c, rest, hchars, -⟩ := n.written_write.exists_front
  have hpart : NumberToken.isPart c = true :=
    n.written_write.isPart c (hchars ▸ List.mem_cons_self)
  simp [Text.isBlankText, hchars, NumberToken.isBlank_of_isPart hpart]

/-- No number begins like a boolean. -/
theorem booleanOfText?_write (n : Number) : booleanOfText? n.write = none := by
  obtain ⟨c, rest, hchars, hfront⟩ := n.written_write.exists_front
  have hlower : c.toLower = c := by
    rcases hfront with hdigit | rfl
    · have hrange : 48 ≤ c.toNat ∧ c.toNat ≤ 57 := Char.isDigit_iff_toNat.mp hdigit
      have hcapital : ¬ (c.val ≥ 'A'.val ∧ c.val ≤ 'Z'.val) := by
        rintro ⟨hlow, -⟩
        have hlow : 65 ≤ c.toNat := hlow
        omega
      exact dif_neg hcapital
    · rfl
  have hletter : c ≠ 't' ∧ c ≠ 'f' := by
    constructor <;> rintro rfl <;> simp at hfront
  simp [booleanOfText?, trim_write, hchars, hlower, hletter]

/-- A whole number that fits a word is read from its text. -/
theorem ofText?_write_integer {n : Int} (h : fitsWord n = true) :
    ofText? (write (.integer n)) = some (.integer n) := by
  rw [ofText?, trim_write, write, NumberToken.toList_toString, NumberToken.ofChars?_integerChars,
    Option.bind_some, ofToken?, NumberToken.integer?_integerChars, Option.filter_some, if_pos h]

theorem instant?_write_integer (n : Int) : Time.instant? (write (.integer n)) = none := by
  have hhyphen : '-' ∉ (NumberToken.integerChars n).tail := by
    intro hmem
    have hdigit := NumberToken.isDigit_of_mem_tail hmem
    cases hdigit
  have hspace : ' ' ∉ (write (.integer n)).toList := by
    intro hmem
    have hpart := (written_write (.integer n)).isPart ' ' hmem
    cases hpart
  rw [write, NumberToken.toList_toString] at hspace
  rw [Time.instant?, trim_write, write, NumberToken.toList_toString,
    Time.recognize_eq_none hhyphen hspace, Option.map_none]

end Number

/-! ### Booleans -/

/-- A boolean as it is written. -/
def boolText (b : Bool) : String := if b then "true" else "false"

theorem isBlankText_boolText (b : Bool) : Text.isBlankText (boolText b) = false := by
  cases b <;> rfl

theorem ofText?_boolText (b : Bool) : Number.ofText? (boolText b) = none := by
  cases b <;> rfl

theorem booleanOfText?_boolText (b : Bool) : booleanOfText? (boolText b) = some b := by
  cases b <;> rfl

theorem instant?_boolText (b : Bool) : Time.instant? (boolText b) = none := by
  cases b <;> rfl

end RowTypings
