import RowTypings.Proofs.Decimal.Rounding
import RowTypings.Proofs.Json.ScalarText

/-!
Numeric text. A text stands for a number only if it is a token of the grammar of JSON numbers. A
token without fraction and exponent whose number fits 64 bits is that whole number; every other
token is the double nearest to its value, or, where the value is past every double, none.
-/

namespace RowTypings

theorem digitsValue_append (ds es : List Char) :
    digitsValue (ds ++ es) = digitsValue ds * 10 ^ es.length + digitsValue es := by
  simp only [digitsValue_eq_ofDigitChars]
  rw [Nat.ofDigitChars_append, Nat.ofDigitChars_eq_ofDigitChars_zero, Nat.mul_comm]

namespace NumberToken

/-! ### The grammar -/

/-- What stands at the end of a token, with the exponent it gives. -/
inductive SpellsExponent : List Char → Option Int → Prop where
  | none : SpellsExponent [] none
  | plain {mark : Char} {ds : List Char} : mark = 'e' ∨ mark = 'E' → DigitRun ds →
      SpellsExponent (mark :: ds) (some (digitsValue ds))
  | up {mark : Char} {ds : List Char} : mark = 'e' ∨ mark = 'E' → DigitRun ds →
      SpellsExponent (mark :: '+' :: ds) (some (digitsValue ds))
  | down {mark : Char} {ds : List Char} : mark = 'e' ∨ mark = 'E' → DigitRun ds →
      SpellsExponent (mark :: '-' :: ds) (some (-digitsValue ds))

def signChars (negative : Bool) : List Char := if negative then ['-'] else []

def fractionChars (ds : List Char) : List Char := if ds.isEmpty then [] else '.' :: ds

/-- The characters of a token, by the grammar of JSON numbers. -/
structure Spells (cs : List Char) (t : NumberToken) : Prop where
  whole : WholeRun t.whole
  fraction : ∀ c ∈ t.fraction, c.isDigit = true
  chars : ∃ mark, SpellsExponent mark t.exponent ∧
    cs = signChars t.negative ++ (t.whole ++ (fractionChars t.fraction ++ mark))

/-! ### What a token stands for -/

/-- The digits in front of the point, with the sign. -/
def signedWhole (t : NumberToken) : Int :=
  if t.negative then -digitsValue t.whole else digitsValue t.whole

/-- A whole number in the range of 64 bits, signed or unsigned. -/
structure Word (t : NumberToken) (n : Int) : Prop where
  fraction : t.fraction = []
  exponent : t.exponent = none
  whole : t.signedWhole = n
  low : -2 ^ 63 ≤ n
  high : n ≤ 2 ^ 64 - 1

/-- The exact number, without its sign. -/
def magnitude (t : NumberToken) : ℚ :=
  (digitsValue t.whole + digitsValue t.fraction / 10 ^ t.fraction.length) *
    10 ^ t.exponent.getD 0

/-! ### The reader reads the grammar -/

variable {cs ds rest : List Char}

theorem run_takeWhile (h : (cs.takeWhile Char.isDigit).isEmpty = false) :
    DigitRun (cs.takeWhile Char.isDigit) :=
  ⟨by simpa using h, fun _ hc => List.mem_takeWhile_imp hc⟩

theorem whole_of_readWhole (h : readWhole cs = some (ds, rest)) :
    WholeRun ds ∧ cs = ds ++ rest := by
  unfold readWhole at h
  split at h
  · cases h
    exact ⟨.inl rfl, rfl⟩
  · rename_i hzero
    dsimp only at h
    split at h
    · cases h
    · rename_i hne
      cases h
      refine ⟨.inr ⟨run_takeWhile (Bool.eq_false_iff.mpr hne), fun hhead => ?_⟩,
        (List.takeWhile_append_dropWhile).symm⟩
      cases cs with
      | nil => cases hhead
      | cons c cs =>
          rw [List.takeWhile_cons] at hhead
          split at hhead
          · obtain rfl := Option.some.inj hhead
            exact hzero cs rfl
          · cases hhead

theorem fraction_of_readFraction (h : readFraction cs = some (ds, rest)) :
    (∀ c ∈ ds, c.isDigit = true) ∧ cs = fractionChars ds ++ rest := by
  unfold readFraction at h
  split at h
  · dsimp only at h
    split at h
    · cases h
    · rename_i cs hne
      cases h
      have hrun := run_takeWhile (Bool.eq_false_iff.mpr hne)
      refine ⟨hrun.2, ?_⟩
      rw [fractionChars, if_neg hne, List.cons_append, List.takeWhile_append_dropWhile]
  · cases h
    exact ⟨List.forall_mem_nil _, rfl⟩

theorem readSign_of_run (hds : DigitRun ds) : readSign ds = (false, ds) := by
  unfold readSign
  split
  · cases hds.2 '+' List.mem_cons_self
  · cases hds.2 '-' List.mem_cons_self
  · rfl

theorem readExponent_eq_some_iff {e : Option Int} :
    readExponent cs = some e ↔ SpellsExponent cs e := by
  constructor
  · intro h
    cases cs with
    | nil =>
        cases h
        exact .none
    | cons mark cs =>
        rw [readExponent] at h
        split at h
        · rename_i hmark
          have hmark : mark = 'e' ∨ mark = 'E' := by simpa using hmark
          dsimp only at h
          split at h
          · rename_i hdigits
            have hrun : DigitRun (readSign cs).2 := by
              simpa [DigitRun] using hdigits
            cases h
            unfold readSign at hrun ⊢
            split at hrun
            · exact .up hmark hrun
            · exact .down hmark hrun
            · exact .plain hmark hrun
          · cases h
        · cases h
  · intro h
    have hall {ds : List Char} (hds : DigitRun ds) : ds.all Char.isDigit = true :=
      List.all_eq_true.mpr hds.2
    cases h with
    | none => rfl
    | plain hmark hds => simp [readExponent, readSign_of_run hds, hmark, hds.1, hall hds]
    | up hmark hds => simp [readExponent, readSign, hmark, hds.1, hall hds]
    | down hmark hds => simp [readExponent, readSign, hmark, hds.1, hall hds]

theorem SpellsExponent.ends {mark : List Char} {e : Option Int} (h : SpellsExponent mark e)
    {p : Char → Bool} (hsmall : p 'e' = false) (hcapital : p 'E' = false) : Text.Ends p mark := by
  cases h with
  | none => exact Text.ends_nil _
  | plain h _ | up h _ | down h _ => exact Text.ends_cons (by rcases h with rfl | rfl <;> assumption)

theorem fractionChars_append_ends {mark : List Char} {e : Option Int}
    (hmark : SpellsExponent mark e) (ds : List Char) :
    Text.Ends Char.isDigit (fractionChars ds ++ mark) := by
  unfold fractionChars
  split
  · exact hmark.ends rfl rfl
  · exact Text.ends_cons rfl

theorem readFraction_fractionChars {mark : List Char} {e : Option Int}
    (hmark : SpellsExponent mark e) (hds : ∀ c ∈ ds, c.isDigit = true) :
    readFraction (fractionChars ds ++ mark) = some (ds, mark) := by
  unfold fractionChars
  split
  · rename_i hnil
    obtain rfl := List.isEmpty_iff.mp hnil
    exact readFraction_of_ends (hmark.ends rfl rfl)
  · rename_i hne
    exact readFraction_point ⟨by simpa using hne, hds⟩ (hmark.ends rfl rfl)

/-- A token is negative if its text starts with a minus sign, as no digit is one. -/
theorem Spells.minus_iff {t : NumberToken} (h : Spells cs t) :
    cs.head? = some '-' ↔ t.negative = true := by
  obtain ⟨hwhole, -, mark, -, rfl⟩ := h
  obtain ⟨c, ds, hds⟩ := List.exists_cons_of_ne_nil hwhole.digits.1
  have hc : c.isDigit = true := hwhole.digits.2 c (hds ▸ List.mem_cons_self)
  cases t.negative with
  | true => simp [signChars]
  | false =>
      have hsign : c ≠ '-' := by
        rintro rfl
        cases hc
      simp [signChars, hds, hsign]

/-- The token whose sign has been read. -/
def readUnsigned (negative : Bool) (cs : List Char) : Option NumberToken :=
  (readWhole cs).bind fun (whole, cs) => (readFraction cs).bind fun (fraction, cs) =>
    (readExponent cs).bind fun exponent => some { negative, whole, fraction, exponent }

theorem readUnsigned_eq_some_iff {negative : Bool} {t : NumberToken} :
    readUnsigned negative cs = some t ↔
      t.negative = negative ∧ Spells (signChars negative ++ cs) t := by
  constructor
  · intro h
    obtain ⟨⟨whole, rest⟩, hwhole, h⟩ := Option.bind_eq_some_iff.mp h
    obtain ⟨⟨fraction, mark⟩, hfraction, h⟩ := Option.bind_eq_some_iff.mp h
    obtain ⟨exponent, hexponent, h⟩ := Option.bind_eq_some_iff.mp h
    cases h
    obtain ⟨hrun, rfl⟩ := whole_of_readWhole hwhole
    obtain ⟨hdigits, rfl⟩ := fraction_of_readFraction hfraction
    exact ⟨rfl, hrun, hdigits, mark, readExponent_eq_some_iff.mp hexponent, rfl⟩
  · rintro ⟨rfl, hwhole, hfraction, mark, hmark, hcs⟩
    obtain rfl := List.append_cancel_left hcs
    have hreadWhole := readWhole_append hwhole (fractionChars_append_ends hmark t.fraction)
    have hreadFraction := readFraction_fractionChars hmark hfraction
    simp [readUnsigned, hreadWhole, hreadFraction, readExponent_eq_some_iff.mpr hmark]

/-- The reader of tokens reads all tokens of the grammar, and nothing else. -/
theorem ofChars?_eq_some_iff {t : NumberToken} : ofChars? cs = some t ↔ Spells cs t := by
  by_cases hminus : cs.head? = some '-'
  · obtain ⟨cs, rfl⟩ := List.head?_eq_some_iff.mp hminus
    have hread : ofChars? ('-' :: cs) = readUnsigned true cs := rfl
    rw [hread, readUnsigned_eq_some_iff]
    exact and_iff_right_of_imp fun h => h.minus_iff.mp rfl
  · have hread : ofChars? cs = readUnsigned false cs := by
      unfold ofChars?
      dsimp only
      split
      · exact (hminus rfl).elim
      · rfl
    rw [hread, readUnsigned_eq_some_iff]
    exact and_iff_right_of_imp fun h => Bool.eq_false_iff.mpr fun ht => hminus (h.minus_iff.mpr ht)

/-! ### The number of a token -/

theorem fitsWord_iff {n : Int} : fitsWord n = true ↔ -2 ^ 63 ≤ n ∧ n ≤ 2 ^ 64 - 1 := by
  simp only [fitsWord, Bool.and_eq_true, decide_eq_true_eq]
  exact and_congr Iff.rfl Int.le_sub_one_iff.symm

theorem word_iff {t : NumberToken} {n : Int} : t.integer?.filter fitsWord = some n ↔ t.Word n := by
  have hinteger : t.integer? = some n ↔
      t.fraction = [] ∧ t.exponent = none ∧ t.signedWhole = n := by
    simp [integer?, signedWhole, and_assoc]
  rw [Option.filter_eq_some_iff, hinteger, fitsWord_iff]
  constructor
  · rintro ⟨⟨hfraction, hexponent, hwhole⟩, hlow, hhigh⟩
    exact ⟨hfraction, hexponent, hwhole, hlow, hhigh⟩
  · rintro ⟨hfraction, hexponent, hwhole, hlow, hhigh⟩
    exact ⟨⟨hfraction, hexponent, hwhole⟩, hlow, hhigh⟩

/-- All digits as one number, which the point then divides. -/
theorem magnitude_eq (t : NumberToken) :
    t.magnitude = digitsValue (t.whole ++ t.fraction) *
      10 ^ (t.exponent.getD 0 - t.fraction.length) := by
  have hten : (10 : ℚ) ≠ 0 := by norm_num
  rw [magnitude, digitsValue_append, zpow_sub₀ hten, zpow_natCast]
  push_cast
  field_simp

theorem float?_cases (t : NumberToken) :
    (Decimal.Binary64.overflow ≤ t.magnitude ∧ t.float? = none) ∨
      (t.magnitude < Decimal.Binary64.overflow ∧
        ∃ x, t.float? = some x ∧ x.negative = t.negative ∧ x.Rounds t.magnitude) := by
  rw [magnitude_eq]
  exact Decimal.Binary64.ofDecimal_cases _ _ _

end NumberToken

namespace Number

open NumberToken (Spells)
open Decimal (Binary64)

theorem ofText?_of_spells {s : String} {t : NumberToken} (h : Spells (Text.trim s).toList t) :
    ofText? s = ofToken? t := by
  rw [ofText?, NumberToken.ofChars?_eq_some_iff.mpr h, Option.bind_some]

theorem ofToken?_of_word {t : NumberToken} {n : Int} (h : t.Word n) :
    ofToken? t = some (.integer n) := by
  rw [ofToken?, NumberToken.word_iff.mpr h]

theorem ofToken?_of_not_word {t : NumberToken} (h : ∀ n, ¬ t.Word n) :
    ofToken? t = t.float?.map .float := by
  have hnone : t.integer?.filter fitsWord = none :=
    Option.eq_none_iff_forall_ne_some.mpr fun n hn => h n (NumberToken.word_iff.mp hn)
  rw [ofToken?, hnone]

/-- White space around a written number does not count. -/
theorem ofText?_padded (n : Number) {front back : String} (hfront : Text.isBlankText front = true)
    (hback : Text.isBlankText back = true) :
    ofText? (front ++ n.write ++ back) = ofText? n.write := by
  rw [ofText?, Text.trim_padded n.trimmed_write hfront hback, ofText?, n.trim_write]

/-- Text outside the grammar of JSON numbers stands for no number. A token of the grammar that is a
whole number in the range of 64 bits stands for exactly that number; any other stands for the double
nearest to its value, or for none if the value is past every double. So the decimal text of a whole
number in that range, with white space around it or not, stands for that number. -/
theorem ofText?_grammar :
    (∀ s, (∀ t, ¬ Spells (Text.trim s).toList t) → ofText? s = none) ∧
    (∀ s t, Spells (Text.trim s).toList t →
      (∀ n, t.Word n → ofText? s = some (.integer n)) ∧
      ((∀ n, ¬ t.Word n) →
        (Binary64.overflow ≤ t.magnitude ∧ ofText? s = none) ∨
          (t.magnitude < Binary64.overflow ∧
            ∃ x, ofText? s = some (.float x) ∧ x.negative = t.negative ∧
              x.Rounds t.magnitude))) ∧
    ∀ (n : Int) (front back : String), -2 ^ 63 ≤ n → n ≤ 2 ^ 64 - 1 →
      Text.isBlankText front = true → Text.isBlankText back = true →
      ofText? (front ++ toString n ++ back) = some (.integer n) := by
  refine ⟨fun s h => ?_, fun s t ht => ⟨fun n hn => ?_, fun hn => ?_⟩, ?_⟩
  · have hnone : NumberToken.ofChars? (Text.trim s).toList = none :=
      Option.eq_none_iff_forall_ne_some.mpr fun t ht =>
        h t (NumberToken.ofChars?_eq_some_iff.mp ht)
    rw [ofText?, hnone, Option.bind_none]
  · rw [ofText?_of_spells ht, ofToken?_of_word hn]
  · rw [ofText?_of_spells ht, ofToken?_of_not_word hn]
    rcases t.float?_cases with ⟨hlarge, hnone⟩ | ⟨hsmall, x, hx, hsign, hrounds⟩
    · exact .inl ⟨hlarge, by rw [hnone, Option.map_none]⟩
    · exact .inr ⟨hsmall, x, by rw [hx, Option.map_some], hsign, hrounds⟩
  · intro n front back hlow hhigh hfront hback
    have hfits : fitsWord n = true := NumberToken.fitsWord_iff.mpr ⟨hlow, hhigh⟩
    exact (ofText?_padded (.integer n) hfront hback).trans (ofText?_write_integer hfits)

theorem ofText?_grammar_samples :
    ofText? "007" = none ∧ ofText? " -0" = some (.integer 0) ∧
    (∃ x, ofText? "25e-1" = some (.float x) ∧ x.negative = false ∧
      x.Rounds (NumberToken.magnitude ⟨false, ['2', '5'], [], some (-1)⟩)) ∧
    ofText? ("\t" ++ toString (-2 ^ 63 : Int) ++ "\n") = some (.integer (-2 ^ 63)) := by
  have hspells (s : String) (t : NumberToken)
      (h : NumberToken.ofChars? (Text.trim s).toList = some t) : Spells (Text.trim s).toList t :=
    NumberToken.ofChars?_eq_some_iff.mp h
  refine ⟨?_, ?_, ?_, ?_⟩
  · refine ofText?_grammar.1 "007" fun t ht => ?_
    cases NumberToken.ofChars?_eq_some_iff.mpr ht
  · exact (ofText?_grammar.2.1 " -0" ⟨true, ['0'], [], none⟩ (hspells _ _ rfl)).1 0
      ⟨rfl, rfl, rfl, by decide, by decide⟩
  · have hdouble := (ofText?_grammar.2.1 "25e-1" ⟨false, ['2', '5'], [], some (-1)⟩
      (hspells _ _ rfl)).2 fun n hn => by cases hn.exponent
    rcases hdouble with ⟨-, hnone⟩ | ⟨-, hx⟩
    · cases hnone
    · exact hx
  · exact ofText?_grammar.2.2 (-2 ^ 63) "\t" "\n" le_rfl (by decide) rfl rfl

end Number

end RowTypings
