import Mathlib.Data.List.Forall2
import RowTypings.Proofs.Naming.Words
import RowTypings.Proofs.Text.CaseMapping

/-!
Spellings of a list of words. The words of a text can be told apart by what stands between them or
by their capitals, and whichever way they are, in whatever case they are written, a name is
inflected to the same two spellings. These two are spellings of the words themselves, so inflecting
once more changes nothing.
-/

namespace RowTypings.Naming

open Text

/-- Small letters of ASCII, two at least: a capital that opens a word tells it from the word before
only if that one ends in a small letter. -/
structure IsPlainWord (w : List Char) : Prop where
  two_le_length : 2 ≤ w.length
  isLower : ∀ c ∈ w, c.isLower = true

instance (w : List Char) : Decidable (IsPlainWord w) :=
  decidable_of_iff (2 ≤ w.length ∧ w.all Char.isLower = true)
    ⟨fun h => ⟨h.1, List.all_eq_true.mp h.2⟩, fun h => ⟨h.1, List.all_eq_true.mpr h.2⟩⟩

/-- The word with its first letter as a capital. -/
def titled : List Char → List Char
  | [] => []
  | c :: cs => c.toUpper :: cs

inductive LetterCase where
  | lower
  | title
  | upper

/-- A word of small letters in that case. -/
def LetterCase.apply : LetterCase → List Char → List Char
  | .lower, w => w
  | .title, w => titled w
  | .upper, w => w.map Char.toUpper

def pascalSpelling (ws : List (List Char)) : List Char := ws.flatMap titled

def camelSpelling : List (List Char) → List Char
  | [] => []
  | w :: ws => w ++ pascalSpelling ws

/-- Words, each in a case of its own, with something between every two of them that belongs to no
word. -/
inductive Joined : List (List Char) → List Char → Prop
  | single (letters : LetterCase) (w : List Char) : Joined [w] (letters.apply w)
  | cons (letters : LetterCase) (w : List Char) {ws : List (List Char)}
      {separator text : List Char} (hne : separator ≠ [])
      (hseparator : Wordless separator) (rest : Joined ws text) :
      Joined (w :: ws) (letters.apply w ++ (separator ++ text))

/-- The conventional spellings of a list of words. -/
inductive Spelling (ws : List (List Char)) : List Char → Prop
  | joined {before text after : List Char} (hbefore : Wordless before) (hafter : Wordless after)
      (h : Joined ws text) : Spelling ws (before ++ text ++ after)
  | camel : Spelling ws (camelSpelling ws)
  | pascal : Spelling ws (pascalSpelling ws)

/-! ### Letters -/

theorem lower_induction {P : Char → Prop}
    (h : ∀ n < 128, (Char.ofNat n).isLower = true → P (Char.ofNat n)) {c : Char}
    (hc : c.isLower = true) : P c := by
  have hrange : 97 ≤ c.toNat ∧ c.toNat ≤ 122 :=
    (Bool.and_eq_true_iff.mp hc).imp of_decide_eq_true of_decide_eq_true
  have hascii : isAscii c = true := decide_eq_true (by omega)
  exact ascii_induction (P := fun c => c.isLower = true → P c) h hascii hc

variable {c : Char} {w : List Char} {ws : List (List Char)}

theorem small_letter (h : c.isLower = true) :
    isAlphanumeric c = true ∧ isLowercase c = true ∧ isUppercase c = false := by
  apply lower_induction _ h
  decide

theorem capital_letter (h : c.isLower = true) :
    isAlphanumeric c.toUpper = true ∧ isLowercase c.toUpper = false ∧
      isUppercase c.toUpper = true := by
  apply lower_induction _ h
  decide

theorem case_mappings (h : c.isLower = true) :
    lowercase c = [c] ∧ lowercase c.toUpper = [c] ∧ uppercase c = [c.toUpper] ∧
      uppercase c.toUpper = [c.toUpper] := by
  apply lower_induction _ h
  decide

/-! ### One word -/

theorem IsPlainWord.exists_cons (h : IsPlainWord w) : ∃ c rest, w = c :: rest :=
  List.exists_cons_of_length_pos (Nat.lt_of_lt_of_le Nat.zero_lt_two h.two_le_length)

theorem flatMap_lowercase_eq_self (hw : ∀ c ∈ w, c.isLower = true) : w.flatMap lowercase = w := by
  induction w with
  | nil => rfl
  | cons c w ih =>
      obtain ⟨hc, hw⟩ := List.forall_mem_cons.mp hw
      rw [List.flatMap_cons, (case_mappings hc).1, ih hw, List.singleton_append]

theorem flatMap_lowercase_toUpper (hw : ∀ c ∈ w, c.isLower = true) :
    (w.map Char.toUpper).flatMap lowercase = w := by
  induction w with
  | nil => rfl
  | cons c w ih =>
      obtain ⟨hc, hw⟩ := List.forall_mem_cons.mp hw
      rw [List.map_cons, List.flatMap_cons, (case_mappings hc).2.1, ih hw, List.singleton_append]

theorem flatMap_lowercase_apply (letters : LetterCase) (hw : ∀ c ∈ w, c.isLower = true) :
    (letters.apply w).flatMap lowercase = w := by
  cases letters with
  | lower => exact flatMap_lowercase_eq_self hw
  | upper => exact flatMap_lowercase_toUpper hw
  | title =>
      cases w with
      | nil => rfl
      | cons c w =>
          obtain ⟨hc, hw⟩ := List.forall_mem_cons.mp hw
          show lowercase c.toUpper ++ w.flatMap lowercase = c :: w
          rw [(case_mappings hc).2.1, flatMap_lowercase_eq_self hw, List.singleton_append]

theorem capitalize_apply (letters : LetterCase) (hw : ∀ c ∈ w, c.isLower = true) :
    capitalize (letters.apply w) = titled w := by
  cases w with
  | nil => cases letters <;> rfl
  | cons c w =>
      obtain ⟨hc, hw⟩ := List.forall_mem_cons.mp hw
      obtain ⟨-, -, hlower, hupper⟩ := case_mappings hc
      cases letters with
      | lower =>
          show uppercase c ++ w.flatMap lowercase = _
          rw [hlower, flatMap_lowercase_eq_self hw]
          rfl
      | title =>
          show uppercase c.toUpper ++ w.flatMap lowercase = _
          rw [hupper, flatMap_lowercase_eq_self hw]
          rfl
      | upper =>
          show uppercase c.toUpper ++ (w.map Char.toUpper).flatMap lowercase = _
          rw [hupper, flatMap_lowercase_toUpper hw]
          rfl

/-- In none of the cases does a capital come after a small letter. -/
theorem words_apply (letters : LetterCase) (h : IsPlainWord w) :
    words (letters.apply w) = [letters.apply w] := by
  obtain ⟨c, rest, rfl⟩ := h.exists_cons
  obtain ⟨hc, hrest⟩ := List.forall_mem_cons.mp h.isLower
  cases letters with
  | lower =>
      apply words_eq_singleton (by simp [LetterCase.apply])
      · exact fun d hd => (small_letter (h.isLower d hd)).1
      · exact fun a _ b hb => .inr (small_letter (hrest b hb)).2.2
  | title =>
      apply words_eq_singleton (by simp [LetterCase.apply, titled])
      · exact List.forall_mem_cons.mpr
          ⟨(capital_letter hc).1, fun d hd => (small_letter (hrest d hd)).1⟩
      · exact fun a _ b hb => .inr (small_letter (hrest b hb)).2.2
  | upper =>
      have hcapital : ∀ d ∈ (c :: rest).map Char.toUpper,
          isAlphanumeric d = true ∧ isLowercase d = false := by
        rw [List.forall_mem_map]
        intro d hd
        obtain ⟨halphanumeric, hlower, -⟩ := capital_letter (h.isLower d hd)
        exact ⟨halphanumeric, hlower⟩
      apply words_eq_singleton (by simp [LetterCase.apply])
      · exact fun d hd => (hcapital d hd).1
      · exact fun a ha _ _ => .inl (hcapital a ha).2

/-! ### Texts -/

/-- The words, each in some case. -/
def Recased (ws vs : List (List Char)) : Prop :=
  List.Forall₂ (fun w v => ∃ letters : LetterCase, v = letters.apply w) ws vs

theorem words_joined (hws : ∀ w ∈ ws, IsPlainWord w) {text : List Char} (h : Joined ws text) :
    Recased ws (words text) := by
  induction h with
  | single letters w =>
      rw [words_apply letters (hws w List.mem_cons_self)]
      exact .cons ⟨letters, rfl⟩ .nil
  | @cons letters w ws separator text hne hseparator _ ih =>
      obtain ⟨hw, hws⟩ := List.forall_mem_cons.mp hws
      have hplace : ∀ b ∈ (separator ++ text).head?, isAlphanumeric b = false := by
        obtain ⟨b, rest, rfl⟩ := List.exists_cons_of_ne_nil hne
        simpa using hseparator b List.mem_cons_self
      rw [words_append fun a _ b hb => sameWord_eq_false_of_right a (hplace b hb),
        words_wordless_append hseparator, words_apply letters hw]
      exact .cons ⟨letters, rfl⟩ (ih hws)

/-- Behind a small letter, words with capitals in front stand apart. -/
theorem words_append_pascalSpelling (hws : ∀ w ∈ ws, IsPlainWord w) {cs : List Char}
    (hcs : ∀ a ∈ cs.getLast?, a.isLower = true) :
    words (cs ++ pascalSpelling ws) = words cs ++ ws.map titled := by
  induction ws generalizing cs with
  | nil => simp [pascalSpelling]
  | cons w ws ih =>
      obtain ⟨hw, hlater⟩ := List.forall_mem_cons.mp hws
      obtain ⟨c, rest, rfl⟩ := hw.exists_cons
      obtain ⟨hc, hrest⟩ := List.forall_mem_cons.mp hw.isLower
      have hrise : ∀ a ∈ cs.getLast?, ∀ b ∈ (pascalSpelling ((c :: rest) :: ws)).head?,
          sameWord a b = false := by
        intro a ha b hb
        obtain rfl : c.toUpper = b := Option.some.inj hb
        exact sameWord_eq_false_of_rise (small_letter (hcs a ha)).2.1 (capital_letter hc).2.2
      have hlast : ∀ a ∈ (titled (c :: rest)).getLast?, a.isLower = true := by
        intro a ha
        have hne : rest ≠ [] := by
          rintro rfl
          exact absurd hw.two_le_length (by simp)
        rw [titled, List.getLast?_cons_of_ne_nil hne] at ha
        exact hrest a (List.mem_of_mem_getLast? ha)
      have hword := words_apply .title hw
      rw [words_append hrise, List.map_cons]
      show words cs ++ words (titled (c :: rest) ++ pascalSpelling ws) = _
      rw [ih hlater hlast, show words (titled (c :: rest)) = _ from hword]
      rfl

theorem recased_titled (ws : List (List Char)) : Recased ws (ws.map titled) := by
  unfold Recased
  rw [List.forall₂_map_right_iff, List.forall₂_same]
  exact fun w _ => ⟨.title, rfl⟩

theorem words_spelling (hws : ∀ w ∈ ws, IsPlainWord w) {text : List Char} (h : Spelling ws text) :
    Recased ws (words text) := by
  cases h with
  | joined hbefore hafter h =>
      rw [words_append_wordless hafter, words_wordless_append hbefore]
      exact words_joined hws h
  | pascal =>
      have hwords : words ([] ++ pascalSpelling ws) = ws.map titled :=
        words_append_pascalSpelling hws (by simp)
      rw [List.nil_append] at hwords
      rw [hwords]
      exact recased_titled ws
  | camel =>
      cases ws with
      | nil => exact .nil
      | cons w ws =>
          obtain ⟨hw, hws⟩ := List.forall_mem_cons.mp hws
          have hlast : ∀ a ∈ w.getLast?, a.isLower = true :=
            fun a ha => hw.isLower a (List.mem_of_mem_getLast? ha)
          rw [camelSpelling, words_append_pascalSpelling hws hlast,
            show words w = [w] from words_apply .lower hw]
          exact .cons ⟨.lower, rfl⟩ (recased_titled ws)

theorem flatMap_capitalize_recased (hws : ∀ w ∈ ws, IsPlainWord w) {vs : List (List Char)}
    (h : Recased ws vs) : vs.flatMap capitalize = pascalSpelling ws := by
  induction h with
  | nil => rfl
  | cons hv _ ih =>
      obtain ⟨hw, hws⟩ := List.forall_mem_cons.mp hws
      obtain ⟨letters, rfl⟩ := hv
      rw [List.flatMap_cons, capitalize_apply letters hw.isLower, ih hws]
      rfl

theorem pascalCase_spelling (hws : ∀ w ∈ ws, IsPlainWord w) {text : List Char}
    (h : Spelling ws text) : pascalCase text = pascalSpelling ws :=
  flatMap_capitalize_recased hws (words_spelling hws h)

theorem camelCase_spelling (hws : ∀ w ∈ ws, IsPlainWord w) {text : List Char}
    (h : Spelling ws text) : camelCase text = camelSpelling ws := by
  have hwords := words_spelling hws h
  unfold camelCase
  cases ws with
  | nil =>
      rw [List.forall₂_nil_left_iff.mp hwords]
      rfl
  | cons w ws =>
      obtain ⟨v, vs, ⟨letters, rfl⟩, hvs, heq⟩ := List.forall₂_cons_left_iff.mp hwords
      obtain ⟨hw, hws⟩ := List.forall_mem_cons.mp hws
      rw [heq]
      show (letters.apply w).flatMap lowercase ++ vs.flatMap capitalize = _
      rw [flatMap_lowercase_apply letters hw.isLower, flatMap_capitalize_recased hws hvs]
      rfl

/-- However a list of words is spelled, it is inflected to its camel case and its Pascal case; and
these are inflected to themselves. -/
theorem spellings_inflect_alike {ws : List (List Char)} (hws : ∀ w ∈ ws, IsPlainWord w)
    {text : List Char} (h : Spelling ws text) :
    (camelCase text = camelSpelling ws ∧ pascalCase text = pascalSpelling ws) ∧
      camelCase (camelCase text) = camelCase text ∧
      pascalCase (pascalCase text) = pascalCase text := by
  have hcamel := camelCase_spelling hws h
  have hpascal := pascalCase_spelling hws h
  refine ⟨⟨hcamel, hpascal⟩, ?_, ?_⟩
  · rw [hcamel]
    exact camelCase_spelling hws .camel
  · rw [hpascal]
    exact pascalCase_spelling hws .pascal

/-- Three words in three cases, with text around and between them that is no word. -/
theorem spellings_inflect_alike_mixed :
    let ws := ["order".toList, "line".toList, "id".toList]
    let text := "--ORDER _line\n/Id".toList
    (∀ w ∈ ws, IsPlainWord w) ∧ Spelling ws text ∧
      camelCase text = "orderLineId".toList ∧ pascalCase text = "OrderLineId".toList ∧
      camelCase (camelCase text) = camelCase text := by
  intro ws text
  have hws : ∀ w ∈ ws, IsPlainWord w := by decide +kernel
  have hjoined : Joined ws ("ORDER".toList ++ (" _".toList ++ ("line".toList ++
      ("\n/".toList ++ "Id".toList)))) :=
    .cons .upper _ (by decide) (by decide)
      (.cons .lower _ (by decide) (by decide) (.single .title _))
  have hbefore : Wordless "--".toList := by decide
  have hafter : Wordless [] := by decide
  have hspelling : Spelling ws text := .joined hbefore hafter hjoined
  obtain ⟨⟨hcamel, hpascal⟩, htwice, -⟩ := spellings_inflect_alike hws hspelling
  exact ⟨hws, hspelling, hcamel, hpascal, htwice⟩

/-- Capitals in a row are one word, so words of a single letter are lost in a spelling without
separators. -/
example : camelCase (camelSpelling [['a'], ['b'], ['c']]) = "aBc".toList := by decide +kernel

end RowTypings.Naming
