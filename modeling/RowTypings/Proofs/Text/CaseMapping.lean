import Mathlib.Data.Char
import RowTypings.Text.Classes

/-!
What the case mappings make of letters. A letter becomes letters, but for some that have no form of
their own in the other case: their form is a plain letter with a mark behind it, and the mark is
neither letter nor number. What is no letter has no other case.
-/

namespace RowTypings.Text

/-! ### Intervals of letters -/

/-- One of the ranges has both ends of the interval. -/
def CodeRanges.covers (ranges : CodeRanges) (first last : Nat) : Bool :=
  ranges.any fun r => Nat.ble r.1 first && Nat.ble last r.2

/-- The counterparts of the characters of a stride. -/
def CaseShift.image (s : CaseShift) : CodeStride :=
  ⟨(s.first + s.distance).toNat, (s.last + s.distance).toNat, s.step⟩

/-- Every code point of the stride lies in one of the ranges. Where a stride steps over gaps, its
code points are looked up one by one. -/
def CodeStride.within (ranges : CodeRanges) (s : CodeStride) : Bool :=
  ranges.covers s.first s.last ||
    (List.range ((s.last - s.first) / s.step + 1)).all fun k =>
      ranges.covers (s.first + k * s.step) (s.first + k * s.step)

/-- The blocks of letters that have two cases. -/
def casedRanges : CodeRanges :=
  [(0x41, 0x5A), (0x61, 0x7A), (0xB5, 0xB5), (0xC0, 0xD6), (0xD8, 0xF6), (0xF8, 0x2C1),
   (0x345, 0x345), (0x363, 0x374), (0x376, 0x377), (0x37A, 0x37D), (0x37F, 0x37F), (0x386, 0x386),
   (0x388, 0x38A), (0x38C, 0x38C), (0x38E, 0x3A1), (0x3A3, 0x3F5), (0x3F7, 0x481), (0x48A, 0x52F),
   (0x531, 0x556), (0x560, 0x588), (0x10A0, 0x10C5), (0x10C7, 0x10C7), (0x10CD, 0x10CD),
   (0x10D0, 0x10FA), (0x10FC, 0x1248), (0x13A0, 0x13F5), (0x13F8, 0x13FD), (0x1C80, 0x1C8A),
   (0x1C90, 0x1CBA), (0x1CBD, 0x1CBF), (0x1D00, 0x1DBF), (0x1E00, 0x1F15), (0x1F18, 0x1F1D),
   (0x1F20, 0x1F45), (0x1F48, 0x1F4D), (0x1F50, 0x1F57), (0x1F59, 0x1F59), (0x1F5B, 0x1F5B),
   (0x1F5D, 0x1F5D), (0x1F5F, 0x1F7D), (0x1F80, 0x1FB4), (0x1FB6, 0x1FBC), (0x1FBE, 0x1FBE),
   (0x1FC2, 0x1FC4), (0x1FC6, 0x1FCC), (0x1FD0, 0x1FD3), (0x1FD6, 0x1FDB), (0x1FE0, 0x1FEC),
   (0x1FF2, 0x1FF4), (0x1FF6, 0x1FFC), (0x2126, 0x2126), (0x212A, 0x212D), (0x212F, 0x2139),
   (0x214E, 0x214E), (0x2160, 0x2188), (0x24B6, 0x24E9), (0x2C00, 0x2CE4), (0x2CEB, 0x2CEE),
   (0x2CF2, 0x2CF3), (0x2D00, 0x2D25), (0x2D27, 0x2D27), (0x2D2D, 0x2D2D), (0xA640, 0xA66E),
   (0xA67F, 0xA6EF), (0xA722, 0xA788), (0xA78B, 0xA7DC), (0xA7F1, 0xA805), (0xAB30, 0xAB5A),
   (0xAB70, 0xABEA), (0xFB00, 0xFB06), (0xFB13, 0xFB17), (0xFF21, 0xFF3A), (0xFF41, 0xFF5A),
   (0x10400, 0x1049D), (0x104B0, 0x104D3), (0x104D8, 0x104FB), (0x10570, 0x1057A),
   (0x1057C, 0x1058A), (0x1058C, 0x10592), (0x10594, 0x10595), (0x10597, 0x105A1),
   (0x105A3, 0x105B1), (0x105B3, 0x105B9), (0x105BB, 0x105BC), (0x10C80, 0x10CB2),
   (0x10CC0, 0x10CF2), (0x10D4A, 0x10D65), (0x10D6F, 0x10D85), (0x118A0, 0x118DF),
   (0x16E40, 0x16E7F), (0x16EA0, 0x16EB8), (0x16EBB, 0x16ED3), (0x1E900, 0x1E943)]

def IsCasedCode (n : Nat) : Prop := casedRanges.covers n n = true

instance (n : Nat) : Decidable (IsCasedCode n) :=
  inferInstanceAs (Decidable (casedRanges.covers n n = true))

theorem CodeRanges.of_covers {ranges : CodeRanges} {first last n : Nat}
    (h : ranges.covers first last = true) (hfirst : first ≤ n) (hlast : n ≤ last) :
    ranges.covers n n = true := by
  obtain ⟨r, hr, hcovers⟩ := List.any_eq_true.mp h
  refine List.any_eq_true.mpr ⟨r, hr, ?_⟩
  simp only [Bool.and_eq_true, Nat.ble_eq] at hcovers ⊢
  omega

theorem CodeStride.covers_of_within {ranges : CodeRanges} {s : CodeStride} {n : Nat}
    (h : s.within ranges = true) (hfirst : s.first ≤ n) (hlast : n ≤ s.last)
    (hstep : (n - s.first) % s.step = 0) : ranges.covers n n = true := by
  rcases Bool.or_eq_true_iff.mp h with hcovers | hall
  · exact CodeRanges.of_covers hcovers hfirst hlast
  · have hcode : s.first + (n - s.first) / s.step * s.step = n := by
      rw [Nat.div_mul_cancel (Nat.dvd_of_mod_eq_zero hstep)]
      omega
    have hcount : (n - s.first) / s.step ≤ (s.last - s.first) / s.step :=
      Nat.div_le_div_right (by omega)
    have hcovers := List.all_eq_true.mp hall _ (List.mem_range.mpr (Nat.lt_succ_of_le hcount))
    rwa [hcode] at hcovers

theorem casedRanges_subset :
    (casedRanges.drop 2).Sublist alphabeticRanges ∧
      casedRanges.take 2 = [(0x41, 0x5A), (0x61, 0x7A)] := by
  decide +kernel

theorem alphabeticRanges_beyond_ascii : ∀ r ∈ alphabeticRanges, 128 ≤ r.1 := by
  decide +kernel

theorem isAlphabetic_of_isCasedCode {c : Char} (h : IsCasedCode c.toNat) :
    isAlphabetic c = true := by
  obtain ⟨r, hr, hcovers⟩ := List.any_eq_true.mp h
  simp only [Bool.and_eq_true, Nat.ble_eq] at hcovers
  obtain ⟨hsublist, hascii⟩ := casedRanges_subset
  rw [← List.take_append_drop 2 casedRanges, hascii] at hr
  rcases List.mem_append.mp hr with hr | hr
  · have hsmall : isAscii c = true ∧ (c.isUpper || c.isLower) = true := by
      simp only [List.mem_cons, List.not_mem_nil, or_false] at hr
      rw [Bool.or_eq_true]
      rcases hr with rfl | rfl
      · exact ⟨decide_eq_true (by omega), .inl (decide_eq_true hcovers)⟩
      · exact ⟨decide_eq_true (by omega),
          .inr (Bool.and_eq_true_iff.mpr (hcovers.imp decide_eq_true decide_eq_true))⟩
    rw [isAlphabetic, if_pos hsmall.1]
    exact hsmall.2
  · have hmem := hsublist.subset hr
    have hlarge := alphabeticRanges_beyond_ascii r hmem
    have hascii : isAscii c = false := decide_eq_false (by omega)
    rw [isAlphabetic, hascii, if_neg Bool.false_ne_true, CodeRanges.contains]
    exact List.any_eq_true.mpr ⟨r, hmem, by simp [hcovers]⟩

theorem casedRanges_valid :
    ∀ r ∈ casedRanges, r.2 < 0xD800 ∨ (0xDFFF < r.1 ∧ r.2 < 0x110000) := by
  decide +kernel

theorem isAlphabetic_ofNat {n : Nat} (h : IsCasedCode n) : isAlphabetic (Char.ofNat n) = true := by
  obtain ⟨r, hr, hcovers⟩ := List.any_eq_true.mp h
  simp only [Bool.and_eq_true, Nat.ble_eq] at hcovers
  have hvalid : n.isValidChar := by
    rcases casedRanges_valid r hr with hlow | hhigh
    · exact .inl (by omega)
    · exact .inr ⟨by omega, by omega⟩
  have htoNat : (Char.ofNat n).toNat = n := by
    rw [Char.ofNat, dif_pos hvalid]
    rfl
  apply isAlphabetic_of_isCasedCode
  rwa [htoNat]

theorem isAlphanumeric_of_isAlphabetic {c : Char} (h : isAlphabetic c = true) :
    isAlphanumeric c = true := by
  simp [isAlphanumeric, h]

/-! ### Tables that map letters to letters -/

/-- Marks that stand behind a letter in its other case, being neither letters nor numbers. -/
def caseMarks : List Nat := [0x300, 0x301, 0x307, 0x308, 0x30A, 0x30C, 0x313, 0x331, 0x342]

/-- Only letters have an entry, and its first code point is a letter; the others are letters too
unless the entry is that of one of `marked`. -/
structure LetterTables (expansions : CaseExpansions) (shifts : CaseShifts)
    (marked : List Nat) : Prop where
  domain : (shifts.all fun s => CodeStride.within casedRanges ⟨s.first, s.last, s.step⟩) = true
  image : (shifts.all fun s => s.image.within casedRanges) = true
  image_nonneg : ∀ s ∈ shifts, 0 ≤ s.first + s.distance
  expansion : ∀ e ∈ expansions, IsCasedCode e.1 ∧ ∃ n ∈ e.2.head?, IsCasedCode n
  marks : ∀ e ∈ expansions, if marked.contains e.1 then ∃ n ∈ e.2, n ∈ caseMarks
    else ∀ n ∈ e.2, IsCasedCode n
  expanded : ∀ n ∈ marked, (expansions.lookup n).isSome = true

section

variable {expansions : CaseExpansions} {shifts : CaseShifts} {marked : List Nat} {c : Char}

/-- The entry that decides the counterpart of a character. -/
theorem convertCase_cases (expansions : CaseExpansions) (shifts : CaseShifts) (c : Char) :
    (∃ codes, (c.toNat, codes) ∈ expansions ∧
      convertCase expansions shifts c = codes.map Char.ofNat) ∨
    (∃ s ∈ shifts, s.covers c = true ∧
      convertCase expansions shifts c = [Char.ofNat (c.toNat + s.distance).toNat]) ∨
    convertCase expansions shifts c = [c] := by
  rw [convertCase]
  cases hcodes : expansions.lookup c.toNat with
  | some codes =>
      obtain ⟨before, later, rfl, -⟩ := List.lookup_eq_some_iff.mp hcodes
      exact .inl ⟨codes, by simp, rfl⟩
  | none =>
      cases hshift : shifts.find? fun s => s.covers c with
      | some s =>
          have hcovers := List.find?_some hshift
          exact .inr (.inl ⟨s, List.mem_of_find?_eq_some hshift, hcovers, rfl⟩)
      | none => exact .inr (.inr rfl)

theorem CaseShift.covers_iff {s : CaseShift} :
    s.covers c = true ↔
      (s.first ≤ c.toNat ∧ c.toNat ≤ s.last) ∧ (c.toNat - s.first) % s.step = 0 := by
  simp [CaseShift.covers, CodeStride.contains]

theorem LetterTables.isAlphabetic_of_covers (h : LetterTables expansions shifts marked)
    {s : CaseShift} (hs : s ∈ shifts) (hc : s.covers c = true) : isAlphabetic c = true := by
  obtain ⟨⟨hfirst, hlast⟩, hstep⟩ := CaseShift.covers_iff.mp hc
  apply isAlphabetic_of_isCasedCode
  exact CodeStride.covers_of_within (List.all_eq_true.mp h.domain s hs) hfirst hlast hstep

theorem LetterTables.isCasedCode_shifted (h : LetterTables expansions shifts marked)
    {s : CaseShift} (hs : s ∈ shifts) (hc : s.covers c = true) :
    IsCasedCode (c.toNat + s.distance).toNat := by
  obtain ⟨⟨hfirst, hlast⟩, hstep⟩ := CaseShift.covers_iff.mp hc
  have hnonneg := h.image_nonneg s hs
  have hmoved : (c.toNat + s.distance).toNat - (s.first + s.distance).toNat =
      c.toNat - s.first := by omega
  apply CodeStride.covers_of_within (List.all_eq_true.mp h.image s hs)
  · show (s.first + s.distance).toNat ≤ _
    omega
  · show _ ≤ (s.last + s.distance).toNat
    omega
  · show (_ - (s.first + s.distance).toNat) % s.step = 0
    rw [hmoved, hstep]

theorem LetterTables.convertCase_eq_self (h : LetterTables expansions shifts marked)
    (hc : isAlphabetic c = false) : convertCase expansions shifts c = [c] := by
  rcases convertCase_cases expansions shifts c with ⟨codes, hmem, -⟩ | ⟨s, hs, hcovers, -⟩ |
    hself
  · rw [isAlphabetic_of_isCasedCode (h.expansion _ hmem).1] at hc
    cases hc
  · rw [h.isAlphabetic_of_covers hs hcovers] at hc
    cases hc
  · exact hself

theorem LetterTables.exists_front (h : LetterTables expansions shifts marked)
    (hc : isAlphabetic c = true) :
    ∃ d rest, convertCase expansions shifts c = d :: rest ∧ isAlphabetic d = true := by
  rcases convertCase_cases expansions shifts c with ⟨codes, hmem, heq⟩ | ⟨s, hs, hcovers, heq⟩ |
    hself
  · obtain ⟨-, n, hn, hletter⟩ := h.expansion _ hmem
    obtain ⟨rest, rfl⟩ := List.head?_eq_some_iff.mp hn
    exact ⟨_, _, heq, isAlphabetic_ofNat hletter⟩
  · exact ⟨_, _, heq, isAlphabetic_ofNat (h.isCasedCode_shifted hs hcovers)⟩
  · exact ⟨c, [], hself, hc⟩

theorem LetterTables.isAlphanumeric_of_mem (h : LetterTables expansions shifts marked)
    (hc : isAlphanumeric c = true) (hplain : c.toNat ∉ marked) :
    ∀ d ∈ convertCase expansions shifts c, isAlphanumeric d = true := by
  have hletter {n : Nat} (hn : IsCasedCode n) : isAlphanumeric (Char.ofNat n) = true :=
    isAlphanumeric_of_isAlphabetic (isAlphabetic_ofNat hn)
  rcases convertCase_cases expansions shifts c with ⟨codes, hmem, heq⟩ | ⟨s, hs, hcovers, heq⟩ |
    hself
  · have hcodes := h.marks _ hmem
    rw [if_neg (by simpa using hplain)] at hcodes
    rw [heq, List.forall_mem_map]
    exact fun n hn => hletter (hcodes n hn)
  · rw [heq, List.forall_mem_singleton]
    exact hletter (h.isCasedCode_shifted hs hcovers)
  · rw [hself, List.forall_mem_singleton]
    exact hc

theorem LetterTables.exists_mark (h : LetterTables expansions shifts marked)
    (hc : c.toNat ∈ marked) : ∃ n ∈ caseMarks, Char.ofNat n ∈ convertCase expansions shifts c := by
  obtain ⟨codes, hcodes⟩ := Option.isSome_iff_exists.mp (h.expanded _ hc)
  obtain ⟨before, later, hsplit, -⟩ := List.lookup_eq_some_iff.mp hcodes
  have hmarks := h.marks (c.toNat, codes) (by simp [hsplit])
  rw [if_pos (List.contains_iff_mem.mpr hc)] at hmarks
  obtain ⟨n, hn, hmark⟩ := hmarks
  refine ⟨n, hmark, ?_⟩
  rw [convertCase, hcodes]
  exact List.mem_map_of_mem hn

end

/-! ### The two mappings -/

/-- A mapping that is the identity outside the letters and makes of a letter a text with a letter
in front. Of the given code points the text has a mark in it, of all others letters and numbers
alone. -/
structure KeepsLetters (mapping : Char → List Char) (marked : List Nat) : Prop where
  eq_self : ∀ c, isAlphabetic c = false → mapping c = [c]
  exists_front : ∀ c, isAlphabetic c = true →
    ∃ d rest, mapping c = d :: rest ∧ isAlphabetic d = true
  isAlphanumeric_of_mem : ∀ c, isAlphanumeric c = true → c.toNat ∉ marked →
    ∀ d ∈ mapping c, isAlphanumeric d = true
  exists_mark : ∀ c, c.toNat ∈ marked → ∃ n ∈ caseMarks, Char.ofNat n ∈ mapping c

/-- Letters whose capital form is a capital with a mark behind it. -/
def markedCapitals : List Nat :=
  [0x1F0, 0x390, 0x3B0, 0x1E96, 0x1E97, 0x1E98, 0x1E99, 0x1F50, 0x1F52, 0x1F54, 0x1F56, 0x1FB6,
    0x1FB7, 0x1FC6, 0x1FC7, 0x1FD2, 0x1FD3, 0x1FD6, 0x1FD7, 0x1FE2, 0x1FE3, 0x1FE4, 0x1FE6, 0x1FE7,
    0x1FF6, 0x1FF7]

theorem uppercase_letterTables :
    LetterTables uppercaseExpansions uppercaseShifts markedCapitals where
  domain := by decide +kernel
  image := by decide +kernel
  image_nonneg := by decide +kernel
  expansion := by decide +kernel
  marks := by decide +kernel
  expanded := by decide +kernel

/-- Of the capitals only one with a dot has a small form that keeps its mark. -/
theorem lowercase_letterTables : LetterTables lowercaseExpansions lowercaseShifts [0x130] where
  domain := by decide +kernel
  image := by decide +kernel
  image_nonneg := by decide +kernel
  expansion := by decide +kernel
  marks := by decide +kernel
  expanded := by decide +kernel

theorem keepsLetters_of_tables {expansions : CaseExpansions} {shifts : CaseShifts}
    {marked : List Nat} (h : LetterTables expansions shifts marked) {ascii : Char → Char}
    (hself : ∀ c, isAscii c = true → isAlphabetic c = false → ascii c = c)
    (hletter : ∀ c, isAscii c = true → isAlphabetic c = true → isAlphabetic (ascii c) = true)
    (hmarked : ∀ n ∈ marked, 128 ≤ n) :
    KeepsLetters (fun c => if isAscii c then [ascii c] else convertCase expansions shifts c)
      marked where
  eq_self c hc := by
    split
    · rename_i hascii
      rw [hself c hascii hc]
    · exact h.convertCase_eq_self hc
  exists_front c hc := by
    split
    · rename_i hascii
      exact ⟨_, [], rfl, hletter c hascii hc⟩
    · exact h.exists_front hc
  isAlphanumeric_of_mem c hc hplain := by
    split
    · rename_i hascii
      rw [List.forall_mem_singleton]
      cases hletters : isAlphabetic c with
      | true => exact isAlphanumeric_of_isAlphabetic (hletter c hascii hletters)
      | false => rwa [hself c hascii hletters]
    · exact h.isAlphanumeric_of_mem hc hplain
  exists_mark c hc := by
    have hlarge := hmarked _ hc
    rw [if_neg (by simpa [isAscii] using hlarge)]
    exact h.exists_mark hc

/-- What holds of the first 128 characters is known by trying them. -/
theorem ascii_induction {P : Char → Prop} (h : ∀ n < 128, P (Char.ofNat n)) {c : Char}
    (hc : isAscii c = true) : P c := by
  have hsmall : c.toNat < 128 := of_decide_eq_true hc
  have hchar := h c.toNat hsmall
  rwa [Char.ofNat_toNat] at hchar

theorem uppercase_keepsLetters : KeepsLetters uppercase markedCapitals := by
  refine keepsLetters_of_tables uppercase_letterTables ?_ ?_ (by decide)
  · intro c hc
    apply ascii_induction (P := fun c => isAlphabetic c = false → c.toUpper = c) _ hc
    decide
  · intro c hc
    apply ascii_induction (P := fun c => isAlphabetic c = true → isAlphabetic c.toUpper = true) _ hc
    decide

theorem lowercase_keepsLetters : KeepsLetters lowercase [0x130] := by
  refine keepsLetters_of_tables lowercase_letterTables ?_ ?_ (by decide)
  · intro c hc
    apply ascii_induction (P := fun c => isAlphabetic c = false → c.toLower = c) _ hc
    decide
  · intro c hc
    apply ascii_induction (P := fun c => isAlphabetic c = true → isAlphabetic c.toLower = true) _ hc
    decide

end RowTypings.Text
