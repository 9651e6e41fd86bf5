import Mathlib.Data.List.Basic
import RowTypings.Naming.Identifier
import RowTypings.Text.Classes

/-!
Characters of written text. A run of one class ends where another class begins, which is how readers
of names and numbers find the end; and what letters, digits and identifiers are made of stays on the
line it is written on.
-/

namespace RowTypings.Text

/-! ### Runs -/

/-- No character of that class stands first. -/
def Ends (p : Char → Bool) (rest : List Char) : Prop := ∀ c ∈ rest.head?, p c = false

theorem ends_nil (p : Char → Bool) : Ends p [] := by simp [Ends]

theorem ends_cons {p : Char → Bool} {c : Char} {rest : List Char} (h : p c = false) :
    Ends p (c :: rest) := by
  simpa [Ends] using h

theorem beq_eq_false {p : Char → Bool} {c d : Char} (hc : p c = true) (hd : p d = false) :
    (c == d) = false := by
  refine beq_false_of_ne ?_
  rintro rfl
  rw [hc] at hd
  cases hd

theorem takeWhile_append {p : Char → Bool} {run rest : List Char} (hrun : ∀ c ∈ run, p c = true)
    (hrest : Ends p rest) : (run ++ rest).takeWhile p = run := by
  rw [List.takeWhile_append_of_pos hrun]
  cases rest with
  | nil => simp
  | cons c rest => simp [hrest c rfl]

theorem dropWhile_append {p : Char → Bool} {run rest : List Char} (hrun : ∀ c ∈ run, p c = true)
    (hrest : Ends p rest) : (run ++ rest).dropWhile p = rest := by
  rw [List.dropWhile_append_of_pos hrun]
  cases rest with
  | nil => rfl
  | cons c rest => simp [hrest c rfl]

/-- A run stays the run it is where another class follows the text. -/
theorem takeWhile_append_of_ends {p : Char → Bool} {rest : List Char} (hrest : Ends p rest)
    (cs : List Char) : (cs ++ rest).takeWhile p = cs.takeWhile p := by
  induction cs with
  | nil => exact takeWhile_append (List.forall_mem_nil _) hrest
  | cons c cs ih =>
      rw [List.cons_append, List.takeWhile_cons, List.takeWhile_cons, ih]

theorem dropWhile_append_of_ends {p : Char → Bool} {rest : List Char} (hrest : Ends p rest)
    (cs : List Char) : (cs ++ rest).dropWhile p = cs.dropWhile p ++ rest := by
  induction cs with
  | nil => exact dropWhile_append (List.forall_mem_nil _) hrest
  | cons c cs ih =>
      rw [List.cons_append, List.dropWhile_cons, List.dropWhile_cons, ih]
      split <;> rfl

/-- No character of the text ends a line, and none is a control character. -/
def OneLine (cs : List Char) : Prop := ∀ c ∈ cs, isControl c = false ∧ isLineBreak c = false

instance (cs : List Char) : Decidable (OneLine cs) :=
  List.decidableBAll (fun c => isControl c = false ∧ isLineBreak c = false) cs

@[simp] theorem oneLine_nil : OneLine [] := by simp [OneLine]

@[simp] theorem oneLine_cons {c : Char} {cs : List Char} :
    OneLine (c :: cs) ↔ (isControl c = false ∧ isLineBreak c = false) ∧ OneLine cs :=
  List.forall_mem_cons

@[simp] theorem oneLine_append {cs ds : List Char} :
    OneLine (cs ++ ds) ↔ OneLine cs ∧ OneLine ds :=
  List.forall_mem_append

theorem oneLine_intercalate {sep : List Char} {texts : List (List Char)} (hsep : OneLine sep)
    (htexts : ∀ cs ∈ texts, OneLine cs) : OneLine (sep.intercalate texts) := by
  induction texts with
  | nil => exact oneLine_nil
  | cons cs texts ih =>
      obtain ⟨hcs, htexts⟩ := List.forall_mem_cons.mp htexts
      cases texts with
      | nil => rwa [List.intercalate_singleton]
      | cons cs' texts =>
          rw [List.intercalate_cons_cons, oneLine_append, oneLine_append]
          exact ⟨⟨hcs, hsep⟩, ih htexts⟩

theorem isLineBreak_eq_false_iff {c : Char} : isLineBreak c = false ↔
    c.toNat ≠ 10 ∧ c.toNat ≠ 13 ∧ c.toNat ≠ 0x2028 ∧ c.toNat ≠ 0x2029 := by
  have hchar (d : Char) : c = d ↔ c.toNat = d.toNat :=
    ⟨congrArg Char.toNat, fun h => Char.ext (UInt32.toNat_inj.mp h)⟩
  simp only [isLineBreak, Bool.or_eq_false_iff, beq_eq_false_iff_ne, ne_eq, hchar, and_assoc]
  rfl

theorem isControl_eq_false_iff {c : Char} : isControl c = false ↔
    32 ≤ c.toNat ∧ (c.toNat < 127 ∨ 160 ≤ c.toNat) := by
  simp only [isControl, Bool.or_eq_false_iff, Bool.and_eq_false_iff, decide_eq_false_iff_not]
  omega

/-! ### Letters and digits -/

/-- A table that leaves out the control characters and the separators of lines. -/
def CodeRanges.Inline (ranges : CodeRanges) : Prop :=
  ∀ r ∈ ranges, 160 ≤ r.1 ∧ (r.2 < 0x2028 ∨ 0x2029 < r.1)

theorem alphabeticRanges_inline : alphabeticRanges.Inline := by
  unfold CodeRanges.Inline
  decide +kernel

theorem numericRanges_inline : numericRanges.Inline := by
  unfold CodeRanges.Inline
  decide +kernel

theorem CodeRanges.Inline.of_contains {ranges : CodeRanges} (h : ranges.Inline) {c : Char}
    (hc : ranges.contains c = true) : isControl c = false ∧ isLineBreak c = false := by
  obtain ⟨r, hr, hrange⟩ := List.any_eq_true.mp hc
  have hfirst := h r hr
  simp only [Bool.and_eq_true, decide_eq_true_eq] at hrange
  rw [isControl_eq_false_iff, isLineBreak_eq_false_iff]
  omega

theorem inline_of_isAlphanumeric {c : Char} (h : isAlphanumeric c = true) :
    isControl c = false ∧ isLineBreak c = false := by
  rw [isAlphanumeric, isAlphabetic, isNumeric] at h
  by_cases hascii : isAscii c = true
  · simp only [hascii, if_true] at h
    have hrange : 48 ≤ c.toNat ∧ c.toNat < 127 := by
      rcases Bool.or_eq_true_iff.mp h with h | h
      · rcases Bool.or_eq_true_iff.mp h with h | h
        · have hupper : 65 ≤ c.toNat ∧ c.toNat ≤ 90 := of_decide_eq_true h
          omega
        · have hlower : 97 ≤ c.toNat ∧ c.toNat ≤ 122 :=
            (Bool.and_eq_true_iff.mp h).imp of_decide_eq_true of_decide_eq_true
          omega
      · have hdigit : 48 ≤ c.toNat ∧ c.toNat ≤ 57 := Char.isDigit_iff_toNat.mp h
        omega
    rw [isControl_eq_false_iff, isLineBreak_eq_false_iff]
    omega
  · simp only [hascii, if_false, Bool.false_eq_true, Bool.or_eq_true] at h
    rcases h with h | h
    · exact alphabeticRanges_inline.of_contains h
    · exact numericRanges_inline.of_contains h

/-! ### Identifiers -/

theorem inline_of_isIdentifierPart {c : Char} (h : Naming.isIdentifierPart c = true) :
    isControl c = false ∧ isLineBreak c = false := by
  simp only [Naming.isIdentifierPart, Bool.or_eq_true, beq_iff_eq] at h
  rcases h with (h | rfl) | rfl
  · exact inline_of_isAlphanumeric h
  · decide
  · decide

end RowTypings.Text
