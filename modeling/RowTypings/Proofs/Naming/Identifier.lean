import RowTypings.Proofs.Text.Runs

/-!
What identifiers are made of, and how they grow.
-/

namespace RowTypings.Naming

open Text

theorem isIdentifierPart_of_isDigit {c : Char} (h : c.isDigit = true) :
    isIdentifierPart c = true := by
  have hascii : isAscii c = true := by
    have hrange : 48 ≤ c.toNat ∧ c.toNat ≤ 57 := Char.isDigit_iff_toNat.mp h
    exact decide_eq_true (by omega)
  simp [isIdentifierPart, isAlphanumeric, isNumeric, hascii, h]

theorem isIdentifierPart_of_isIdentifierStart {c : Char} (h : isIdentifierStart c = true) :
    isIdentifierPart c = true := by
  simp only [isIdentifierStart, isIdentifierPart, isAlphanumeric, Bool.or_eq_true] at h ⊢
  tauto

theorem isIdentifierPart_of_mem {cs : List Char} (h : isIdentifier cs = true) :
    ∀ c ∈ cs, isIdentifierPart c = true := by
  cases cs with
  | nil => cases h
  | cons c cs =>
      obtain ⟨hstart, hparts⟩ := Bool.and_eq_true_iff.mp h
      exact List.forall_mem_cons.mpr
        ⟨isIdentifierPart_of_isIdentifierStart hstart, List.all_eq_true.mp hparts⟩

theorem isIdentifier_append_iff {cs ds : List Char} (h : cs ≠ []) :
    isIdentifier (cs ++ ds) = true ↔
      isIdentifier cs = true ∧ ∀ c ∈ ds, isIdentifierPart c = true := by
  cases cs with
  | nil => exact absurd rfl h
  | cons c cs => simp [isIdentifier, and_assoc]

theorem isIdentifier_append {cs ds : List Char} (h : isIdentifier cs = true)
    (hds : ∀ c ∈ ds, isIdentifierPart c = true) : isIdentifier (cs ++ ds) = true := by
  have hne : cs ≠ [] := by
    rintro rfl
    cases h
  exact (isIdentifier_append_iff hne).mpr ⟨h, hds⟩

end RowTypings.Naming
