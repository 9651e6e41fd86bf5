import Mathlib.Data.List.DropRight
import RowTypings.Proofs.Text.Runs
import RowTypings.Text.Trim

/-!
Trimmed text. It has no white space at either end, so trimming it once more leaves it as it is.
-/

namespace RowTypings.Text

variable {cs : List Char}

theorem ends_dropWhile (p : Char → Bool) (cs : List Char) : Ends p (cs.dropWhile p) := by
  intro c hc
  have hfirst := List.head?_dropWhile_not p cs
  rw [Option.mem_def.mp hc] at hfirst
  exact hfirst

/-- White space stands at neither end. -/
def Trimmed (cs : List Char) : Prop := Ends isBlank cs ∧ Ends isBlank cs.reverse

theorem trimmed_of_forall (h : ∀ c ∈ cs, isBlank c = false) : Trimmed cs :=
  ⟨fun c hc => h c (List.mem_of_mem_head? hc),
    fun c hc => h c (List.mem_reverse.mp (List.mem_of_mem_head? hc))⟩

/-- What trimming on the right leaves of a text begins as the text did. -/
theorem ends_trimRight (h : Ends isBlank cs) : Ends isBlank (trimRight cs) := by
  obtain ⟨later, hlater⟩ : trimRight cs <+: cs := List.rdropWhile_prefix isBlank cs
  intro c hc
  refine h c ?_
  rw [← hlater, List.head?_append, Option.mem_def.mp hc]
  rfl

theorem trimmed_trim (s : String) : Trimmed (trim s).toList := by
  rw [trim, String.toList_ofList]
  refine ⟨ends_trimRight (ends_dropWhile isBlank _), ?_⟩
  rw [trimRight, List.reverse_reverse]
  exact ends_dropWhile isBlank _

theorem dropWhile_eq_self {p : Char → Bool} (h : Ends p cs) : cs.dropWhile p = cs :=
  dropWhile_append (List.forall_mem_nil _) h

theorem trim_eq_self {s : String} (h : Trimmed s.toList) : trim s = s := by
  rw [trim, trimLeft, dropWhile_eq_self h.1, trimRight, dropWhile_eq_self h.2,
    List.reverse_reverse, String.ofList_toList]

/-- White space put around a trimmed text is trimmed away. -/
theorem trim_padded {s : String} (h : Trimmed s.toList) {front back : String}
    (hfront : isBlankText front = true) (hback : isBlankText back = true) :
    trim (front ++ s ++ back) = s := by
  have hright : trimRight (s.toList ++ back.toList) = s.toList := by
    rw [trimRight, List.reverse_append, dropWhile_append _ h.2, List.reverse_reverse]
    simpa using List.all_eq_true.mp hback
  have hleft : trimLeft (s.toList ++ back.toList) =
      if s.toList = [] then [] else s.toList ++ back.toList := by
    split
    · rename_i hnil
      rw [hnil, List.nil_append, trimLeft, List.dropWhile_eq_nil_iff]
      exact List.all_eq_true.mp hback
    · rename_i hne
      refine dropWhile_eq_self fun c hc => h.1 c ?_
      rwa [List.head?_append_of_ne_nil _ hne] at hc
  rw [trim, String.toList_append, String.toList_append, List.append_assoc, trimLeft,
    List.dropWhile_append_of_pos (List.all_eq_true.mp hfront), ← trimLeft, hleft]
  split
  · rename_i hnil
    rw [← String.ofList_toList (s := s), hnil]
    rfl
  · rw [hright, String.ofList_toList]

@[simp] theorem trim_trim (s : String) : trim (trim s) = trim s :=
  trim_eq_self (trimmed_trim s)

end RowTypings.Text
