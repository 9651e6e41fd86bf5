import Mathlib.Data.List.Infix

/-!
General facts that several parts of the theory use: results of steps that can fail, and joined
texts.
-/

namespace RowTypings

/-- A result of two steps is one of the second, from what the first gives. -/
theorem exists_of_bind_eq_ok {ε α β : Type} {x : Except ε α} {f : α → Except ε β} {r : β}
    (h : x >>= f = .ok r) : ∃ a, x = .ok a ∧ f a = .ok r := by
  cases x with
  | error e => cases h
  | ok a => exact ⟨a, rfl, h⟩

/-! ### Joined texts -/

theorem exists_intercalate_cons (sep cs : List Char) (texts : List (List Char)) :
    ∃ more, sep.intercalate (cs :: texts) = cs ++ more := by
  cases texts with
  | nil => exact ⟨[], by simp⟩
  | cons cs' texts =>
      refine ⟨sep ++ sep.intercalate (cs' :: texts), ?_⟩
      rw [List.intercalate_cons_cons, List.append_assoc]

theorem infix_intercalate (sep : List Char) {texts : List (List Char)} {cs : List Char}
    (h : cs ∈ texts) : cs <:+: sep.intercalate texts := by
  induction texts with
  | nil => cases h
  | cons text texts ih =>
      cases texts with
      | nil =>
          rw [List.mem_singleton.mp h, List.intercalate_singleton]
      | cons text' texts =>
          rw [List.intercalate_cons_cons]
          rcases List.mem_cons.mp h with rfl | h
          · rw [List.append_assoc]
            exact (List.prefix_append ..).isInfix
          · exact (ih h).trans (List.suffix_append ..).isInfix

theorem length_le_length_intercalate (sep : List Char) {texts : List (List Char)}
    (h : ∀ cs ∈ texts, cs ≠ []) : texts.length ≤ (sep.intercalate texts).length := by
  induction texts with
  | nil => simp
  | cons first rest ih =>
      obtain ⟨hfirst, hrest⟩ := List.forall_mem_cons.mp h
      have hpos := List.length_pos_iff.mpr hfirst
      have hlater := ih hrest
      cases rest with
      | nil =>
          rw [List.intercalate_singleton]
          exact hpos
      | cons second rest =>
          rw [List.intercalate_cons_cons, List.length_append, List.length_append, List.length_cons]
          omega

/-- Between the parts of a list stand as many commas, less one. -/
theorem length_le_succ_length_intercalate (texts : List (List Char)) :
    texts.length ≤ ([','].intercalate texts).length + 1 := by
  induction texts with
  | nil => simp
  | cons first rest ih =>
      cases rest with
      | nil => simp
      | cons second rest =>
          simp only [List.intercalate_cons_cons, List.length_append, List.length_cons] at ih ⊢
          omega

end RowTypings
