import RowTypings.Json.Printer
import RowTypings.Json.Reader
import RowTypings.Proofs.Json.ScalarText

/-!
Strings and whole numbers read from the JSON text they are written as. A string ends at its closing
quote whatever follows it; a number ends where something follows that is no part of a number.
-/

namespace RowTypings.Json

/-! ### Strings -/

theorem hexDigit_spec (n : Nat) :
    hexValue? (hexDigit n) = some (n % 16) ∧ (hexDigit n).utf8Size = 1 := by
  have hall : ∀ d < 16, hexValue? (Nat.digitChar d) = some d ∧ (Nat.digitChar d).utf8Size = 1 := by
    decide
  exact hall (n % 16) (Nat.mod_lt _ (by decide))

theorem readHex_fourHexDigits {n : Nat} (h : n < 65536) (rest : List Char) :
    readHex (fourHexDigits n ++ rest) = .ok (n, rest) := by
  have hsum : ((n / 4096 % 16 * 16 + n / 256 % 16) * 16 + n / 16 % 16) * 16 + n % 16 = n := by
    omega
  simp [readHex, fourHexDigits, byteCount, (hexDigit_spec _).1, (hexDigit_spec _).2, hsum]

/-- A control character is written by its number. -/
theorem readEscape_number {c : Char} (h : c.toNat < 32) (rest : List Char) :
    readEscape ('u' :: (fourHexDigits c.toNat ++ rest)) = .ok (c, rest) := by
  have hlow : isLowSurrogate c.toNat = false := by
    simp only [isLowSurrogate, Bool.and_eq_false_iff, decide_eq_false_iff_not]
    omega
  have hhigh : isHighSurrogate c.toNat = false := by
    simp only [isHighSurrogate, Bool.and_eq_false_iff, decide_eq_false_iff_not]
    omega
  have hread := readHex_fourHexDigits (show c.toNat < 65536 by omega) rest
  change (readHex (fourHexDigits c.toNat ++ rest)).bind _ = _
  rw [hread]
  simp [Except.bind, hlow, hhigh]

/-- One step reads what one character is written as. -/
theorem readString_escape (done : List Char) (steps : Nat) (c : Char) (rest : List Char) :
    readString done (steps + 1) (escape c ++ rest) = readString (c :: done) steps rest := by
  unfold escape
  split_ifs with hquote hbackslash hbackspace hfeed hnewline hreturn htab hnumber
  · obtain rfl := eq_of_beq hquote
    rfl
  · obtain rfl := eq_of_beq hbackslash
    rfl
  · obtain rfl := eq_of_beq hbackspace
    rfl
  · obtain rfl := eq_of_beq hfeed
    rfl
  · obtain rfl := eq_of_beq hnewline
    rfl
  · obtain rfl := eq_of_beq hreturn
    rfl
  · obtain rfl := eq_of_beq htab
    rfl
  · change (readEscape ('u' :: (fourHexDigits c.toNat ++ rest))).bind _ = _
    rw [readEscape_number hnumber]
    rfl
  · rw [List.singleton_append, readString, if_neg hquote, if_neg hbackslash, if_neg hnumber]

theorem readString_flatMap_escape (cs rest : List Char) (done : List Char) {steps : Nat}
    (hsteps : cs.length < steps) :
    readString done steps (cs.flatMap escape ++ '"' :: rest) =
      .ok (String.ofList (done.reverse ++ cs), rest) := by
  induction cs generalizing done steps with
  | nil =>
      obtain ⟨steps, rfl⟩ := Nat.exists_eq_succ_of_ne_zero (Nat.ne_zero_of_lt hsteps)
      rw [List.flatMap_nil, List.nil_append, List.append_nil]
      rfl
  | cons c cs ih =>
      obtain ⟨steps, rfl⟩ := Nat.exists_eq_succ_of_ne_zero (Nat.ne_zero_of_lt hsteps)
      rw [List.flatMap_cons, List.append_assoc, readString_escape,
        ih (c :: done) (Nat.lt_of_succ_lt_succ hsteps), List.reverse_cons, List.append_assoc,
        List.singleton_append]

theorem toList_quote (s : String) :
    (quote s).toList = '"' :: (s.toList.flatMap escape ++ ['"']) := by
  rw [quote, String.toList_ofList]
  rfl

/-- The text of a string, read behind its opening quote. -/
theorem readString_quote {s : String} {limit : Nat} (h : s.length < limit) (rest : List Char) :
    readString [] limit (s.toList.flatMap escape ++ '"' :: rest) = .ok (s, rest) := by
  rw [readString_flatMap_escape _ _ _ (by rwa [String.length_toList]), List.reverse_nil,
    List.nil_append, String.ofList_toList]

/-! ### Whole numbers -/

theorem le_foldl_digits (ds : List Char) (n : Nat) :
    n ≤ ds.foldl (fun n c => n * 10 + (c.toNat - '0'.toNat)) n := by
  induction ds generalizing n with
  | nil => exact Nat.le_refl n
  | cons c ds ih =>
      have hnext := ih (n * 10 + (c.toNat - '0'.toNat))
      rw [List.foldl_cons]
      omega

/-- Digits of a number that fits are all taken. -/
theorem absorb_eq {ds : List Char} {n : Nat}
    (h : ds.foldl (fun n c => n * 10 + (c.toNat - '0'.toNat)) n < Nat.pow 2 64) :
    absorb n ds = (ds.foldl (fun n c => n * 10 + (c.toNat - '0'.toNat)) n, []) := by
  induction ds generalizing n with
  | nil => rfl
  | cons c ds ih =>
      rw [List.foldl_cons] at h ⊢
      have hnext := Nat.lt_of_le_of_lt (le_foldl_digits ds _) h
      rw [absorb, if_pos hnext]
      exact ih h

theorem absorb_toDigits {n : Nat} (h : n < Nat.pow 2 64) :
    absorb 0 (Nat.toDigits 10 n) = (n, []) := by
  have hvalue := digitsValue_toDigits n
  unfold digitsValue at hvalue
  rw [absorb_eq (by rwa [hvalue]), hvalue]

/-- A leading zero stands alone. -/
theorem toDigits_of_zero_front {n : Nat} {ds : List Char} (h : Nat.toDigits 10 n = '0' :: ds) :
    ds = [] := by
  rcases Nat.eq_zero_or_pos n with rfl | hpos
  · exact (List.cons.inj h).2.symm
  · exact absurd (by rw [h]; rfl) (NumberToken.head_toDigits_ne hpos)

/-- The digits in front of a text are told from what follows them, also where a zero stands
alone. -/
theorem takeDigits {n : Nat} {c : Char} {ds rest : List Char}
    (hcs : Nat.toDigits 10 n = c :: ds) (hrest : Text.Ends Char.isDigit rest) :
    (if c == '0' then ['0'] else (c :: (ds ++ rest)).takeWhile Char.isDigit) = c :: ds ∧
      (if c == '0' then ds ++ rest else (c :: (ds ++ rest)).dropWhile Char.isDigit) = rest := by
  have hdigits : ∀ d ∈ c :: ds, d.isDigit = true := hcs ▸ (NumberToken.run_toDigits n).2
  split
  · rename_i hzero
    obtain rfl := eq_of_beq hzero
    obtain rfl := toDigits_of_zero_front hcs
    exact ⟨rfl, rfl⟩
  · rw [← List.cons_append]
    exact ⟨Text.takeWhile_append hdigits hrest, Text.dropWhile_append hdigits hrest⟩

theorem readNumber_toDigits (negative : Bool) {n : Nat} (h : n < Nat.pow 2 64) {rest : List Char}
    (hrest : Text.Ends NumberToken.isPart rest) :
    readNumber negative (Nat.toDigits 10 n ++ rest) = wholeNumber negative n rest := by
  have habsorb := absorb_toDigits h
  cases hcs : Nat.toDigits 10 n with
  | nil => exact absurd hcs Nat.toDigits_ne_nil
  | cons c ds =>
      have hc : c.isDigit = true := NumberToken.isDigit_of_mem_toDigits (hcs ▸ List.mem_cons_self)
      have hends : Text.Ends Char.isDigit rest := by
        intro d hd
        have hpart := hrest d hd
        simp only [NumberToken.isPart, Bool.or_eq_false_iff] at hpart
        exact hpart.1.1.1.1.1
      obtain ⟨htake, hdrop⟩ := takeDigits hcs hends
      rw [hcs] at habsorb
      have hdigit : (!c.isDigit) = false := by rw [hc]; rfl
      simp only [List.cons_append, readNumber, hdigit, Bool.false_eq_true, if_false, htake, hdrop,
        habsorb]
      cases rest with
      | nil => simp
      | cons d rest =>
          have hd := hrest d rfl
          simp only [NumberToken.isPart, Bool.or_eq_false_iff, beq_eq_false_iff_ne, ne_eq] at hd
          obtain ⟨⟨⟨⟨⟨hdigit, -⟩, -⟩, hpoint⟩, hsmall⟩, hcapital⟩ := hd
          split
          · exact absurd (List.cons.inj ‹_›).1 hpoint
          · exact absurd (List.cons.inj ‹_›).1 hsmall
          · exact absurd (List.cons.inj ‹_›).1 hcapital
          · simp [hdigit]

theorem wholeNumber_natAbs {n : Int} (h : fitsWord n = true) (rest : List Char) :
    wholeNumber (decide (n < 0)) n.natAbs rest = .ok (.integer n, rest) := by
  simp only [fitsWord, Bool.and_eq_true, decide_eq_true_eq] at h
  unfold wholeNumber
  by_cases hn : n < 0
  · have hlow : -(n.natAbs : Int) = n := by omega
    have hbound : n.natAbs ≤ Nat.pow 2 63 := by omega
    have hpos : 0 < n.natAbs := by omega
    simp only [hn, hpos, hbound, hlow, decide_true, Bool.not_true, Bool.false_eq_true,
      Bool.and_self, if_true, if_false]
  · have habs : (n.natAbs : Int) = n := by omega
    simp [hn, habs]

theorem natAbs_lt_of_fitsWord {n : Int} (h : fitsWord n = true) : n.natAbs < Nat.pow 2 64 := by
  simp only [fitsWord, Bool.and_eq_true, decide_eq_true_eq] at h
  have hpow : Nat.pow 2 63 < Nat.pow 2 64 := by decide
  omega

end RowTypings.Json
