import Mathlib.Data.List.Chain
import Mathlib.Data.List.SplitBy
import RowTypings.Naming.Words

/-!
The words of a name. A name falls apart wherever two neighbours do not belong to one word; so the
words of a text are those of its parts, if it is parted at such a place, and what stands between
words has none.
-/

namespace RowTypings.Naming

open Text

variable {cs ds w : List Char}

theorem ne_nil_of_mem_words (h : w ∈ words cs) : w ≠ [] :=
  List.ne_nil_of_mem_splitBy (List.mem_filter.mp h).1

theorem isAlphanumeric_of_mem_words (h : w ∈ words cs) : ∀ c ∈ w, isAlphanumeric c = true :=
  List.all_eq_true.mp (List.mem_filter.mp h).2

/-- No character of the text belongs to a word. -/
def Wordless (cs : List Char) : Prop := ∀ c ∈ cs, isAlphanumeric c = false

instance (cs : List Char) : Decidable (Wordless cs) :=
  List.decidableBAll (fun c => isAlphanumeric c = false) cs

/-! ### Places between words -/

theorem sameWord_eq_false_of_rise {a b : Char} (ha : isLowercase a = true)
    (hb : isUppercase b = true) : sameWord a b = false := by
  simp [sameWord, ha, hb]

theorem sameWord_eq_false_of_left {a : Char} (ha : isAlphanumeric a = false) (b : Char) :
    sameWord a b = false := by
  simp [sameWord, ha]

theorem sameWord_eq_false_of_right (a : Char) {b : Char} (hb : isAlphanumeric b = false) :
    sameWord a b = false := by
  simp [sameWord, hb]

/-- The words of a text are those in front of a place between words and those behind it. -/
theorem words_append (h : ∀ a ∈ cs.getLast?, ∀ b ∈ ds.head?, sameWord a b = false) :
    words (cs ++ ds) = words cs ++ words ds := by
  rw [words, List.splitBy_append h, List.filter_append]
  rfl

theorem words_of_wordless (h : Wordless cs) : words cs = [] := by
  refine List.eq_nil_iff_forall_not_mem.mpr fun w hw => ?_
  obtain ⟨c, rest, rfl⟩ := List.exists_cons_of_ne_nil (ne_nil_of_mem_words hw)
  have hmem : c ∈ cs := by
    rw [← List.flatten_splitBy sameWord cs]
    exact List.mem_flatten.mpr ⟨_, (List.mem_filter.mp hw).1, List.mem_cons_self⟩
  have halphanumeric := isAlphanumeric_of_mem_words hw c List.mem_cons_self
  rw [h c hmem] at halphanumeric
  cases halphanumeric

theorem words_append_wordless (h : Wordless ds) : words (cs ++ ds) = words cs := by
  rw [words_append, words_of_wordless h, List.append_nil]
  intro a _ b hb
  exact sameWord_eq_false_of_right a (h b (List.mem_of_mem_head? hb))

theorem words_wordless_append (h : Wordless cs) : words (cs ++ ds) = words ds := by
  rw [words_append, words_of_wordless h, List.nil_append]
  intro a ha b _
  exact sameWord_eq_false_of_left (h a (List.mem_of_mem_getLast? ha)) b

theorem words_of_isChain (hne : w ≠ []) (hw : ∀ c ∈ w, isAlphanumeric c = true)
    (hchain : w.IsChain fun a b => sameWord a b = true) : words w = [w] := by
  rw [words, List.splitBy_of_isChain hne hchain]
  exact List.filter_eq_self.mpr (by simpa using hw)

/-- A text of letters and numbers is one word if no capital in it comes after a small letter. -/
theorem words_eq_singleton (hne : w ≠ []) (hw : ∀ c ∈ w, isAlphanumeric c = true)
    (hlevel : ∀ a ∈ w, ∀ b ∈ w.tail, isLowercase a = false ∨ isUppercase b = false) :
    words w = [w] := by
  refine words_of_isChain hne hw ?_
  refine List.IsChain.imp_of_mem_tail_imp (fun a b ha hb _ => ?_) (List.isChain_isInfix w)
  simpa [sameWord, hw a ha, hw b (List.mem_of_mem_tail hb)] using hlevel a ha b hb

end RowTypings.Naming
