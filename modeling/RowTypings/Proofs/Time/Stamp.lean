import RowTypings.Proofs.Text.Trim
import RowTypings.Time.Stamp

/-!
Texts and timestamps. White space around a text does not change its instant, and a text that has
neither a hyphen behind its first character nor a space has no layout of a timestamp at all.
-/

namespace RowTypings.Time

@[simp] theorem instant?_trim (s : String) : instant? (Text.trim s) = instant? s := by
  rw [instant?, Text.trim_trim, instant?]

/-! ### What stands in every layout -/

variable {cs rest : List Char}

theorem eq_drop_of_readDigits {n v : Nat} (h : readDigits n cs = some (v, rest)) :
    rest = cs.drop n := by
  unfold readDigits at h
  dsimp only at h
  split at h
  · cases h
    rfl
  · cases h

theorem eq_cons_of_readChar {c : Char} (h : readChar c cs = some rest) : cs = c :: rest := by
  cases cs with
  | nil => cases h
  | cons d cs =>
      rw [readChar] at h
      split at h
      · rename_i hd
        cases h
        rw [eq_of_beq hd]
      · cases h

theorem mem_of_readDigits_readChar {n v : Nat} {c : Char} {rest' : List Char}
    (hdigits : readDigits n cs = some (v, rest)) (hchar : readChar c rest = some rest') :
    c ∈ cs.drop n := by
  rw [← eq_drop_of_readDigits hdigits, eq_cons_of_readChar hchar]
  exact List.mem_cons_self

theorem hyphen_mem_of_readDate {date : (Nat × Nat × Nat) × List Char}
    (h : readDate cs = some date) : '-' ∈ cs.tail := by
  simp only [readDate, Option.bind_eq_bind, Option.bind_eq_some_iff] at h
  obtain ⟨⟨year, rest⟩, hyear, rest', hhyphen, -⟩ := h
  have hmem : '-' ∈ cs.drop 4 := mem_of_readDigits_readChar hyear hhyphen
  rw [show cs.drop 4 = cs.tail.drop 3 by rw [List.drop_tail]] at hmem
  exact List.mem_of_mem_drop hmem

theorem space_mem_of_readDay {day : Nat × List Char} (h : readDay cs = some day) : ' ' ∈ cs := by
  simp only [readDay, Option.bind_eq_bind, Option.bind_eq_some_iff] at h
  obtain ⟨⟨number, rest⟩, hnumber, rest', hspace, -⟩ := h
  exact List.mem_of_mem_drop (mem_of_readDigits_readChar hnumber hspace)

theorem suffix_of_readWeekday {named : Option Nat} (h : readWeekday cs = some (named, rest)) :
    rest <:+ cs := by
  unfold readWeekday at h
  split at h
  · rename_i a b c rest'
    obtain ⟨i, -, heq⟩ := Option.map_eq_some_iff.mp h
    cases heq
    exact ⟨[a, b, c, ',', ' '], rfl⟩
  · cases h
    exact List.suffix_refl _

theorem space_mem_of_mailReading {r : ClockReading} (h : mailReading? cs = some r) :
    ' ' ∈ cs := by
  obtain ⟨⟨named, rest⟩, hnamed, h⟩ := Option.bind_eq_some_iff.mp h
  obtain ⟨day, hday, -⟩ := Option.bind_eq_some_iff.mp h
  exact (suffix_of_readWeekday hnamed).subset (space_mem_of_readDay hday)

theorem reading?_eq_none (hhyphen : '-' ∉ cs.tail) (hspace : ' ' ∉ cs) (layout : Layout) :
    layout.reading? cs = none := by
  have hdate : readDate cs = none :=
    Option.eq_none_iff_forall_ne_some.mpr fun _ h => hhyphen (hyphen_mem_of_readDate h)
  cases layout with
  | date => rw [Layout.reading?, dateReading?, hdate]; rfl
  | dateTime => rw [Layout.reading?, dateTimeReading?, hdate]; rfl
  | mail =>
      exact Option.eq_none_iff_forall_ne_some.mpr fun _ h => hspace (space_mem_of_mailReading h)

theorem recognize_eq_none (hhyphen : '-' ∉ cs.tail) (hspace : ' ' ∉ cs) : recognize cs = none := by
  refine List.findSome?_eq_none_iff.mpr fun layout _ => ?_
  rw [reading?_eq_none hhyphen hspace, Option.bind_none]

end RowTypings.Time
