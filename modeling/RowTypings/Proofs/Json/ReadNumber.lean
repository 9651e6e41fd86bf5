import RowTypings.Proofs.Json.ReadScalar

/-!
Numbers read in front of other text. What the reader of numbers takes from a text it takes as well
where the text goes on with something that is no part of a number. So a number that is read back
from its own text is read back wherever that text stands.
-/

namespace RowTypings.Json

/-- What is read leaves an end of the text, and it is read as well where the text goes on with
something that is no part of a number. -/
def Local (read : List Char → Reading Number) : Prop :=
  ∀ cs n left, read cs = .ok (n, left) → left <:+ cs ∧
    ∀ rest, Text.Ends NumberToken.isPart rest → read (cs ++ rest) = .ok (n, left ++ rest)

theorem ends_isDigit {rest : List Char} (h : Text.Ends NumberToken.isPart rest) :
    Text.Ends Char.isDigit rest := by
  intro c hc
  have hpart := h c hc
  simp only [NumberToken.isPart, Bool.or_eq_false_iff] at hpart
  exact hpart.1.1.1.1.1

/-! ### Numbers of known parts -/

theorem local_ok (n : Number) : Local fun cs => .ok (n, cs) := by
  intro cs m left h
  cases h
  exact ⟨List.suffix_refl _, fun _ _ => rfl⟩

theorem local_floatOfParts (negative : Bool) (significand : Nat) (exponent : Int) :
    Local (floatOfParts negative significand exponent) := by
  unfold floatOfParts
  cases (Decimal.Binary64.nearest negative significand 1).bind fun x => scale 2 x exponent with
  | none => exact fun cs n left h => by cases h
  | some x => exact local_ok (.float x)

theorem local_wholeNumber (negative : Bool) (significand : Nat) :
    Local (wholeNumber negative significand) := by
  unfold wholeNumber
  split_ifs
  · exact local_ok _
  · exact local_ok _
  · exact local_floatOfParts _ _ _

/-! ### Exponents -/

theorem readExponentDigits_append {rest : List Char} (hrest : Text.Ends Char.isDigit rest)
    (exponent : Nat) (cs : List Char) :
    (readExponentDigits exponent cs).2 <:+ cs ∧
      readExponentDigits exponent (cs ++ rest) =
        ((readExponentDigits exponent cs).1, (readExponentDigits exponent cs).2 ++ rest) := by
  induction cs generalizing exponent with
  | nil =>
      refine ⟨List.suffix_refl _, ?_⟩
      cases rest with
      | nil => rfl
      | cons c rest => simp [readExponentDigits, hrest c rfl]
  | cons c cs ih =>
      rw [List.cons_append, readExponentDigits, readExponentDigits]
      split_ifs with hdigit
      · dsimp only
        split_ifs
        · obtain ⟨hsuffix, happend⟩ := ih (exponent * 10 + (c.toNat - '0'.toNat))
          exact ⟨hsuffix.trans (List.suffix_cons _ _), happend⟩
        · exact ⟨List.suffix_cons _ _, rfl⟩
      · exact ⟨List.suffix_refl _, rfl⟩

/-- What the digits of an exponent give, with the text behind them. -/
def behindExponent (negative : Bool) (significand : Nat) (start : Int) (down : Bool) :
    Option Nat × List Char → Reading Number
  | (some e, rest) =>
    floatOfParts negative significand (if down then start - e else start + e) rest
  | (none, rest) =>
    if significand != 0 && !down then faultAt .numberOutOfRange rest
    else .ok (.float (.zero negative), rest.dropWhile Char.isDigit)

def readUnsignedExponent (negative : Bool) (significand : Nat) (start : Int) (down : Bool) :
    List Char → Reading Number
  | [] => faultAt .endInValue []
  | c :: rest =>
    if !c.isDigit then faultAfter .invalidNumber (c :: rest)
    else behindExponent negative significand start down (readExponentDigits 0 (c :: rest))

section Exponents

variable (negative : Bool) (significand : Nat) (start : Int)

theorem readExponent_eq (cs : List Char) :
    readExponent negative significand start cs =
      readUnsignedExponent negative significand start (NumberToken.readSign cs).1
        (NumberToken.readSign cs).2 :=
  rfl

theorem local_behindExponent (down : Bool) (exponent : Option Nat) :
    Local fun cs => behindExponent negative significand start down (exponent, cs) := by
  cases exponent with
  | some e => exact local_floatOfParts _ _ _
  | none =>
      intro cs n left h
      dsimp only [behindExponent] at h ⊢
      split_ifs at h ⊢ with hlarge
      · cases h
      · cases h
        refine ⟨List.dropWhile_suffix _, fun rest hrest => ?_⟩
        rw [Text.dropWhile_append_of_ends (ends_isDigit hrest)]

theorem local_readUnsignedExponent (down : Bool) :
    Local (readUnsignedExponent negative significand start down) := by
  intro cs n left h
  cases cs with
  | nil => cases h
  | cons c cs =>
      rw [readUnsignedExponent] at h
      split at h
      · cases h
      · rename_i hdigit
        obtain ⟨hleft, happend⟩ := local_behindExponent _ _ _ _ _ _ _ _ h
        refine ⟨hleft.trans (readExponentDigits_append (Text.ends_nil _) 0 (c :: cs)).1,
          fun rest hrest => ?_⟩
        have hdigits := (readExponentDigits_append (ends_isDigit hrest) 0 (c :: cs)).2
        rw [List.cons_append] at hdigits ⊢
        rw [readUnsignedExponent, if_neg hdigit, hdigits]
        exact happend rest hrest

theorem readSign_suffix (cs : List Char) : (NumberToken.readSign cs).2 <:+ cs := by
  unfold NumberToken.readSign
  split
  · exact List.suffix_cons _ _
  · exact List.suffix_cons _ _
  · exact List.suffix_refl _

theorem readSign_append {cs : List Char} (hne : cs ≠ []) (rest : List Char) :
    NumberToken.readSign (cs ++ rest) =
      ((NumberToken.readSign cs).1, (NumberToken.readSign cs).2 ++ rest) := by
  obtain ⟨c, cs, rfl⟩ := List.exists_cons_of_ne_nil hne
  by_cases hplus : c = '+'
  · rw [hplus]
    rfl
  by_cases hminus : c = '-'
  · rw [hminus]
    rfl
  · simp [NumberToken.readSign, hplus, hminus]

theorem local_readExponent : Local (readExponent negative significand start) := by
  intro cs n left h
  rw [readExponent_eq] at h
  obtain ⟨hleft, happend⟩ := local_readUnsignedExponent _ _ _ _ _ _ _ h
  refine ⟨hleft.trans (readSign_suffix cs), fun rest hrest => ?_⟩
  have hne : cs ≠ [] := by
    rintro rfl
    cases h
  rw [readExponent_eq, readSign_append hne]
  exact happend rest hrest

end Exponents

/-! ### Fractions and whole parts -/

/-- What is read behind a mark, or from the text itself where no mark stands first. -/
def behindMark (mark : Char → Bool) (behind plain : List Char → Reading Number) :
    List Char → Reading Number
  | [] => plain []
  | c :: cs => if mark c then behind cs else plain (c :: cs)

theorem local_behindMark {mark : Char → Bool} {behind plain : List Char → Reading Number}
    (hmark : ∀ c, mark c = true → NumberToken.isPart c = true) (hbehind : Local behind)
    (hplain : Local plain) : Local (behindMark mark behind plain) := by
  intro cs n left h
  cases cs with
  | nil =>
      obtain ⟨hleft, happend⟩ := hplain [] n left h
      refine ⟨hleft, fun rest hrest => ?_⟩
      -- what follows is no part of a number, so no mark either
      rw [List.nil_append]
      cases rest with
      | nil => exact happend [] hrest
      | cons c rest =>
          have hc : mark c = false := Bool.eq_false_iff.mpr fun hc => by
            have hpart := hrest c rfl
            rw [hmark c hc] at hpart
            cases hpart
          rw [behindMark, if_neg (by simp [hc])]
          exact happend (c :: rest) hrest
  | cons c cs =>
      simp only [behindMark, List.cons_append] at h ⊢
      split_ifs at h ⊢ with hc
      · obtain ⟨hleft, happend⟩ := hbehind cs n left h
        exact ⟨hleft.trans (List.suffix_cons _ _), happend⟩
      · exact hplain (c :: cs) n left h

def isExponentMark (c : Char) : Bool := c == 'e' || c == 'E'

theorem isPart_of_isExponentMark (c : Char) (h : isExponentMark c = true) :
    NumberToken.isPart c = true := by
  simp only [isExponentMark, Bool.or_eq_true, beq_iff_eq] at h
  rcases h with rfl | rfl <;> rfl

theorem isPart_of_point (c : Char) (h : (c == '.') = true) : NumberToken.isPart c = true := by
  rw [eq_of_beq h]
  rfl

theorem behindMark_of_ends {mark : Char → Bool} (behind plain : List Char → Reading Number)
    {cs : List Char} (h : Text.Ends mark cs) : behindMark mark behind plain cs = plain cs := by
  cases cs with
  | nil => rfl
  | cons c cs => rw [behindMark, if_neg (by simp [h c rfl])]

theorem ends_isExponentMark {cs : List Char} (hsmall : ∀ rest, cs ≠ 'e' :: rest)
    (hcapital : ∀ rest, cs ≠ 'E' :: rest) : Text.Ends isExponentMark cs := by
  intro c hc
  obtain ⟨rest, rfl⟩ := List.head?_eq_some_iff.mp hc
  simp only [isExponentMark, Bool.or_eq_false_iff, beq_eq_false_iff_ne, ne_eq]
  constructor
  · rintro rfl
    exact hsmall rest rfl
  · rintro rfl
    exact hcapital rest rfl

section Parts

variable (negative : Bool)

theorem readFraction_eq (significand : Nat) (start : Int) (cs : List Char) :
    readFraction negative significand start cs =
      let digits := cs.takeWhile Char.isDigit
      let rest := cs.dropWhile Char.isDigit
      let r := absorb significand digits
      let exponent := start - (digits.length - r.2.length : Nat)
      if digits.isEmpty then
        faultAfter (if rest.isEmpty then .endInValue else .invalidNumber) rest
      else
        behindMark isExponentMark (readExponent negative r.1 exponent)
          (floatOfParts negative r.1 exponent) rest := by
  dsimp only [readFraction]
  split
  · rfl
  · split
    · rename_i heq
      rw [heq]
      rfl
    · rename_i heq
      rw [heq]
      rfl
    · rename_i hsmall hcapital
      rw [behindMark_of_ends _ _ (ends_isExponentMark hsmall hcapital)]

theorem local_readFraction (significand : Nat) (start : Int) :
    Local (readFraction negative significand start) := by
  intro cs n left h
  rw [readFraction_eq] at h
  dsimp only at h
  split at h
  · cases h
  · rename_i hdigits
    obtain ⟨hleft, happend⟩ := local_behindMark isPart_of_isExponentMark
      (local_readExponent _ _ _) (local_floatOfParts _ _ _) _ _ _ h
    refine ⟨hleft.trans (List.dropWhile_suffix _), fun rest hrest => ?_⟩
    rw [readFraction_eq, Text.takeWhile_append_of_ends (ends_isDigit hrest),
      Text.dropWhile_append_of_ends (ends_isDigit hrest)]
    dsimp only
    rw [if_neg hdigits]
    exact happend rest hrest

/-- A whole part without fraction and exponent. No digit follows a zero. -/
def readPlain (zero : Bool) (significand : Nat) (dropped : List Char) (cs : List Char) :
    Reading Number :=
  if zero && cs.head?.any Char.isDigit then faultAfter .invalidNumber cs
  else if dropped.isEmpty then wholeNumber negative significand cs
  else floatOfParts negative significand dropped.length cs

theorem local_readPlain (zero : Bool) (significand : Nat) (dropped : List Char) :
    Local (readPlain negative zero significand dropped) := by
  have hnumber : Local fun cs =>
      if dropped.isEmpty then wholeNumber negative significand cs
      else floatOfParts negative significand dropped.length cs := by
    split_ifs
    · exact local_wholeNumber _ _
    · exact local_floatOfParts _ _ _
  intro cs n left h
  rw [readPlain] at h
  split at h
  · cases h
  · rename_i hzero
    obtain ⟨hleft, happend⟩ := hnumber cs n left h
    refine ⟨hleft, fun rest hrest => ?_⟩
    have hdigit : ¬ (zero && (cs ++ rest).head?.any Char.isDigit) = true := by
      cases cs with
      | nil =>
          cases rest with
          | nil => simp
          | cons c rest => simp [ends_isDigit hrest c rfl]
      | cons c cs => exact hzero
    rw [readPlain, if_neg hdigit]
    exact happend rest hrest

theorem readNumber_cons (c : Char) (cs : List Char) :
    readNumber negative (c :: cs) =
      let zero := c == '0'
      let r := absorb 0 (if zero then ['0'] else (c :: cs).takeWhile Char.isDigit)
      if !c.isDigit then faultAfter .invalidNumber (c :: cs)
      else
        behindMark (· == '.') (readFraction negative r.1 r.2.length)
          (behindMark isExponentMark (readExponent negative r.1 r.2.length)
            (readPlain negative zero r.1 r.2))
          (if zero then cs else (c :: cs).dropWhile Char.isDigit) := by
  dsimp only [readNumber]
  split
  · rfl
  · split
    · rename_i heq
      rw [heq]
      rfl
    · rename_i heq
      rw [heq]
      rfl
    · rename_i heq
      rw [heq]
      rfl
    · rename_i hpoint hsmall hcapital
      have hends : Text.Ends (· == '.')
          (if c == '0' then cs else (c :: cs).dropWhile Char.isDigit) := by
        intro d hd
        obtain ⟨rest, hrest⟩ := List.head?_eq_some_iff.mp hd
        refine beq_false_of_ne ?_
        rintro rfl
        exact hpoint rest hrest
      rw [behindMark_of_ends _ _ hends,
        behindMark_of_ends _ _ (ends_isExponentMark hsmall hcapital)]
      rfl

/-- Digits at the front, of which a zero stands alone. -/
theorem frontDigits_append {rest : List Char} (hrest : Text.Ends Char.isDigit rest) (c : Char)
    (cs : List Char) :
    (if c == '0' then ['0'] else (c :: (cs ++ rest)).takeWhile Char.isDigit) =
        (if c == '0' then ['0'] else (c :: cs).takeWhile Char.isDigit) ∧
      (if c == '0' then cs ++ rest else (c :: (cs ++ rest)).dropWhile Char.isDigit) =
        (if c == '0' then cs else (c :: cs).dropWhile Char.isDigit) ++ rest := by
  rw [← List.cons_append, Text.takeWhile_append_of_ends hrest, Text.dropWhile_append_of_ends hrest]
  split
  · exact ⟨rfl, rfl⟩
  · exact ⟨rfl, rfl⟩

theorem local_readNumber : Local (readNumber negative) := by
  intro cs n left h
  cases cs with
  | nil => cases h
  | cons c cs =>
      rw [readNumber_cons] at h
      dsimp only at h
      split at h
      · cases h
      · rename_i hdigit
        obtain ⟨hleft, happend⟩ := local_behindMark isPart_of_point (local_readFraction _ _ _)
          (local_behindMark isPart_of_isExponentMark (local_readExponent _ _ _)
            (local_readPlain _ _ _ _)) _ _ _ h
        have hsuffix : (if c == '0' then cs else (c :: cs).dropWhile Char.isDigit) <:+ c :: cs := by
          split
          · exact List.suffix_cons _ _
          · exact List.dropWhile_suffix _
        refine ⟨hleft.trans hsuffix, fun rest hrest => ?_⟩
        obtain ⟨htake, hdrop⟩ := frontDigits_append (ends_isDigit hrest) c cs
        rw [List.cons_append, readNumber_cons]
        dsimp only
        rw [htake, hdrop, if_neg hdigit]
        exact happend rest hrest

end Parts

end RowTypings.Json
