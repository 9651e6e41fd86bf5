import RowTypings.Proofs.Naming.Words

/-!
Where the words of a name begin and end. Read from its end, a name gains one character at a time:
one that belongs to the word behind it joins that word, any other opens a word of its own or is left
out. So the words together are the letters and numbers of the name, and two of these that follow one
another are in different words exactly if something stands between them or a small letter is
followed by a capital. A reading from the start, which carries the word in progress and the
character before, finds the same words: what is in progress and what is still to be read are parted
only where two neighbours do not belong to one word.
-/

namespace RowTypings.Naming

open Text

/-- Between two characters of words: something that belongs to no word, or the change from a small
letter to a capital. -/
def Boundary (a : Char) (gap : List Char) (b : Char) : Prop :=
  (∃ c ∈ gap, isAlphanumeric c = false) ∨ (isLowercase a = true ∧ isUppercase b = true)

/-- The characters of some words in order, each with the number of the word it is in. -/
def numbered (first : Nat) : List (List Char) → List (Char × Nat)
  | [] => []
  | w :: ws => w.map (·, first) ++ numbered (first + 1) ws

/-- A reading of the text from its start: the words that are complete, the word in progress, and the
character before, unless it belongs to no word. -/
structure Scan where
  complete : List (List Char) := []
  pending : List Char := []
  previous : Option Char := none

namespace Scan

/-- The word in progress is complete, if there is one. -/
def close (s : Scan) : Scan :=
  if s.pending.isEmpty then s
  else { s with complete := s.complete ++ [s.pending], pending := [] }

def next (s : Scan) (c : Char) : Scan :=
  if isAlphanumeric c then
    let opened := if s.previous.any isLowercase && isUppercase c then s.close else s
    { opened with pending := opened.pending ++ [c], previous := some c }
  else { s.close with previous := none }

end Scan

/-- The words of a text that is read character by character. -/
def scan (cs : List Char) : List (List Char) := (cs.foldl Scan.next {}).close.complete

variable {a b c : Char} {cs before gap after rest x y : List Char} {us vs : List (List Char)}

/-! ### One more character in front -/

/-- An element that belongs to the first run joins it. -/
theorem splitBy_cons_cons {α : Type} {r : α → α → Bool} {a b : α} (h : r a b = true)
    (l : List α) :
    ∃ g gs, (b :: l).splitBy r = (b :: g) :: gs ∧
      (a :: b :: l).splitBy r = (a :: b :: g) :: gs := by
  cases hruns : (b :: l).splitBy r with
  | nil => simp at hruns
  | cons run gs =>
      obtain ⟨hflatten, hne, hchains, hbreaks⟩ := List.splitBy_eq_iff.mp hruns
      cases run with
      | nil => simp at hne
      | cons first g =>
          obtain rfl : b = first := (List.cons.inj hflatten).1
          refine ⟨g, gs, rfl, List.splitBy_eq_iff.mpr ⟨?_, ?_, ?_, ?_⟩⟩
          · rw [hflatten]
            rfl
          · simpa using hne
          · obtain ⟨hfirst, hlater⟩ := List.forall_mem_cons.mp hchains
            exact List.forall_mem_cons.mpr ⟨hfirst.cons_cons h, hlater⟩
          · rw [List.isChain_cons] at hbreaks ⊢
            refine ⟨fun run hrun => ?_, hbreaks.2⟩
            obtain ⟨_, hrunne, hbreak⟩ := hbreaks.1 run hrun
            exact ⟨by simp, hrunne, by simpa using hbreak⟩

theorem isAlphanumeric_of_sameWord (h : sameWord a b = true) :
    isAlphanumeric a = true ∧ isAlphanumeric b = true := by
  simp only [sameWord, Bool.and_eq_true] at h
  exact h.1

theorem isAlphanumeric_of_isChain (hc : isAlphanumeric c = true)
    (h : (c :: cs).IsChain fun a b => sameWord a b = true) :
    (c :: cs).all isAlphanumeric = true := by
  induction cs generalizing c with
  | nil => simpa using hc
  | cons d cs ih =>
      rw [List.isChain_cons_cons] at h
      rw [List.all_cons, hc, ih (isAlphanumeric_of_sameWord h.1).2 h.2]
      rfl

/-- A character that belongs to the word behind it joins that word. -/
theorem words_cons_of_sameWord (h : sameWord a b = true) (rest : List Char) :
    ∃ w ws, words (b :: rest) = (b :: w) :: ws ∧ words (a :: b :: rest) = (a :: b :: w) :: ws := by
  obtain ⟨g, gs, hruns, hlonger⟩ := splitBy_cons_cons h rest
  obtain ⟨ha, hb⟩ := isAlphanumeric_of_sameWord h
  have hchain : (b :: g).IsChain fun a b => sameWord a b = true :=
    List.isChain_of_mem_splitBy (hruns ▸ List.mem_cons_self)
  have hword := isAlphanumeric_of_isChain hb hchain
  have hlongerword := isAlphanumeric_of_isChain ha (hchain.cons_cons h)
  refine ⟨g, gs.filter fun w => w.all isAlphanumeric, ?_, ?_⟩
  · rw [words, hruns]
    exact List.filter_cons_of_pos hword
  · rw [words, hlonger]
    exact List.filter_cons_of_pos hlongerword

/-- Any other character stands apart from the words behind it. -/
theorem words_cons_of_break (h : ∀ b ∈ rest.head?, sameWord a b = false) :
    words (a :: rest) = words [a] ++ words rest := by
  have hsplit : words ([a] ++ rest) = words [a] ++ words rest :=
    words_append fun c hc b hb => by
      obtain rfl : a = c := Option.some.inj hc
      exact h b hb
  exact hsplit

/-- A place between words, told by the character behind it. -/
theorem words_append_cons (h : ∀ a ∈ before.getLast?, sameWord a c = false) (cs : List Char) :
    words (before ++ c :: cs) = words before ++ words (c :: cs) :=
  words_append fun a ha b hb => by
    obtain rfl : c = b := Option.some.inj hb
    exact h a ha

theorem words_singleton (h : isAlphanumeric a = true) : words [a] = [[a]] :=
  words_eq_singleton (by simp) (by simpa using h) (by simp)

theorem flatten_words_singleton (a : Char) :
    (words [a]).flatten = [a].filter isAlphanumeric := by
  cases ha : isAlphanumeric a with
  | true => simp [words_singleton ha, ha]
  | false =>
      rw [words_of_wordless (by simpa [Wordless] using ha)]
      simp [ha]

/-- A character either belongs to the word behind it or stands apart from what is behind it. -/
theorem sameWord_head_cases (a : Char) (rest : List Char) :
    (∃ b tail, rest = b :: tail ∧ sameWord a b = true) ∨
      ∀ b ∈ rest.head?, sameWord a b = false := by
  cases rest with
  | nil => exact .inr (by simp)
  | cons b tail =>
      cases hsame : sameWord a b with
      | true => exact .inl ⟨b, tail, rfl, hsame⟩
      | false => exact .inr (by simpa using hsame)

/-! ### The whole text -/

/-- The words together are the letters and numbers of the text. -/
theorem flatten_words (cs : List Char) : (words cs).flatten = cs.filter isAlphanumeric := by
  induction cs with
  | nil => rfl
  | cons a rest ih =>
      rcases sameWord_head_cases a rest with ⟨b, tail, rfl, hsame⟩ | hbreak
      · obtain ⟨w, ws, hwords, hlonger⟩ := words_cons_of_sameWord hsame tail
        rw [hwords] at ih
        rw [hlonger, List.filter_cons_of_pos (isAlphanumeric_of_sameWord hsame).1, ← ih]
        rfl
      · rw [words_cons_of_break hbreak, List.flatten_append, flatten_words_singleton, ih,
          ← List.filter_append, List.singleton_append]

/-- Text in front lengthens the first word at most; the words behind it stay what they are. -/
theorem words_append_of_words_eq (h : words (a :: rest) = (a :: y) :: vs) (before : List Char) :
    ∃ us x, words (before ++ a :: rest) = us ++ (x ++ a :: y) :: vs ∧
      us.flatten ++ x = before.filter isAlphanumeric := by
  induction before with
  | nil => exact ⟨[], [], h, rfl⟩
  | cons c before ih =>
      obtain ⟨us, x, hwords, hfront⟩ := ih
      rcases sameWord_head_cases c (before ++ a :: rest) with ⟨d, tail, htext, hsame⟩ | hbreak
      · obtain ⟨w, ws, hshorter, hlonger⟩ := words_cons_of_sameWord hsame tail
        have hc := (isAlphanumeric_of_sameWord hsame).1
        rw [← htext, hwords] at hshorter
        rw [List.cons_append, htext, hlonger, List.filter_cons_of_pos hc, ← hfront]
        -- the word that `c` joins is the one of `a`, or one in front of it
        cases us with
        | nil =>
            obtain ⟨hword, hlater⟩ := List.cons.inj hshorter
            exact ⟨[], c :: x, by rw [← hword, ← hlater]; rfl, rfl⟩
        | cons u us =>
            obtain ⟨hword, hlater⟩ := List.cons.inj hshorter
            exact ⟨(c :: u) :: us, x, by rw [hword, ← hlater]; rfl, rfl⟩
      · refine ⟨words [c] ++ us, x, ?_, ?_⟩
        · rw [List.cons_append, words_cons_of_break hbreak, hwords, List.append_assoc]
        · rw [List.flatten_append, flatten_words_singleton, List.append_assoc, hfront,
            ← List.filter_append, List.singleton_append]

theorem exists_words_cons (h : isAlphanumeric a = true) (rest : List Char) :
    ∃ y vs, words (a :: rest) = (a :: y) :: vs := by
  rcases sameWord_head_cases a rest with ⟨b, tail, rfl, hsame⟩ | hbreak
  · obtain ⟨w, ws, -, hwords⟩ := words_cons_of_sameWord hsame tail
    exact ⟨b :: w, ws, hwords⟩
  · exact ⟨[], words rest, by rw [words_cons_of_break hbreak, words_singleton h]; rfl⟩

/-! ### From the start -/

namespace Scan

/-- What is in progress is one word so far, and the character before is its last. -/
structure Fits (s : Scan) : Prop where
  alphanumeric : ∀ c ∈ s.pending, isAlphanumeric c = true
  isChain : s.pending.IsChain fun a b => sameWord a b = true
  previous : s.previous = s.pending.getLast?

variable {s : Scan}

@[simp] theorem pending_close (s : Scan) : s.close.pending = [] := by
  rw [close]
  split
  · rename_i hempty
    exact List.isEmpty_iff.mp hempty
  · rfl

theorem Fits.complete_close (hs : s.Fits) : s.close.complete = s.complete ++ words s.pending := by
  rw [close]
  split
  · rename_i hempty
    rw [List.isEmpty_iff.mp hempty]
    exact (List.append_nil _).symm
  · rename_i hpending
    rw [words_of_isChain (by simpa using hpending) hs.alphanumeric hs.isChain]

theorem next_of_not_alphanumeric (hc : isAlphanumeric c = false) :
    s.next c = { s.close with previous := none } := by
  simp [next, hc]

theorem next_of_rise (hc : isAlphanumeric c = true)
    (hrise : (s.previous.any isLowercase && isUppercase c) = true) :
    s.next c = { complete := s.close.complete, pending := [c], previous := some c } := by
  simp [next, hc, hrise]

theorem next_of_level (hc : isAlphanumeric c = true)
    (hlevel : (s.previous.any isLowercase && isUppercase c) = false) :
    s.next c = { s with pending := s.pending ++ [c], previous := some c } := by
  simp [next, hc, hlevel]

/-- A letter or number belongs to the word in progress unless it is the capital after a small
letter. -/
theorem Fits.sameWord_last (hs : s.Fits) (hc : isAlphanumeric c = true)
    (ha : a ∈ s.pending.getLast?) :
    sameWord a c = !(s.previous.any isLowercase && isUppercase c) := by
  have hmem := hs.alphanumeric a (List.mem_of_getLast? ha)
  rw [hs.previous, Option.mem_def.mp ha, sameWord, hmem, hc]
  rfl

theorem Fits.next (hs : s.Fits) (c : Char) : (s.next c).Fits := by
  cases hc : isAlphanumeric c with
  | false =>
      rw [next_of_not_alphanumeric hc]
      exact ⟨by simp, by simp, by simp⟩
  | true =>
      cases hrise : s.previous.any isLowercase && isUppercase c with
      | true =>
          rw [next_of_rise hc hrise]
          exact ⟨by simpa using hc, by simp, rfl⟩
      | false =>
          rw [next_of_level hc hrise]
          refine ⟨?_, ?_, by simp⟩
          · simp only [List.mem_append, List.mem_singleton]
            rintro d (hd | rfl)
            · exact hs.alphanumeric d hd
            · exact hc
          · refine List.isChain_append.mpr ⟨hs.isChain, by simp, ?_⟩
            rintro a ha b hb
            obtain rfl : c = b := Option.some.inj hb
            rw [hs.sameWord_last hc ha, hrise]
            rfl

/-- One more character leaves the words together what they are. -/
theorem Fits.words_next (hs : s.Fits) (c : Char) (cs : List Char) :
    (s.next c).complete ++ words ((s.next c).pending ++ cs) =
      s.complete ++ words (s.pending ++ c :: cs) := by
  cases hc : isAlphanumeric c with
  | false =>
      have hgap : Wordless [c] := by simpa [Wordless] using hc
      have hbreak : ∀ a ∈ s.pending.getLast?, sameWord a c = false :=
        fun a _ => sameWord_eq_false_of_right a hc
      rw [next_of_not_alphanumeric hc, words_append_cons hbreak, ← List.append_assoc,
        ← hs.complete_close, ← List.singleton_append, words_wordless_append hgap]
      simp
  | true =>
      cases hrise : s.previous.any isLowercase && isUppercase c with
      | true =>
          have hbreak : ∀ a ∈ s.pending.getLast?, sameWord a c = false := fun a ha => by
            rw [hs.sameWord_last hc ha, hrise]
            rfl
          rw [next_of_rise hc hrise, words_append_cons hbreak, ← List.append_assoc,
            ← hs.complete_close]
          rfl
      | false =>
          rw [next_of_level hc hrise]
          simp

theorem Fits.words_foldl (hs : s.Fits) (cs : List Char) :
    (cs.foldl Scan.next s).close.complete = s.complete ++ words (s.pending ++ cs) := by
  induction cs generalizing s with
  | nil => rw [List.append_nil]; exact hs.complete_close
  | cons c cs ih => rw [List.foldl_cons, ih (hs.next c), hs.words_next]

end Scan

/-- Reading from the start finds the same words. -/
theorem scan_eq_words (cs : List Char) : scan cs = words cs := by
  have hstart : ({} : Scan).Fits := ⟨by simp, by simp, rfl⟩
  exact hstart.words_foldl cs

/-! ### Neighbours -/

theorem words_of_boundary (ha : isAlphanumeric a = true) (hgap : Wordless gap)
    (h : Boundary a gap b) (after : List Char) :
    words (a :: (gap ++ b :: after)) = [a] :: words (b :: after) := by
  have hbreak : ∀ c ∈ (gap ++ b :: after).head?, sameWord a c = false := by
    cases gap with
    | nil =>
        obtain ⟨hlower, hupper⟩ := h.resolve_left (by simp)
        simpa using sameWord_eq_false_of_rise hlower hupper
    | cons c gap => simpa using sameWord_eq_false_of_right a (hgap c List.mem_cons_self)
  rw [words_cons_of_break hbreak, words_singleton ha, words_wordless_append hgap,
    List.singleton_append]

theorem exists_words_of_not_boundary (ha : isAlphanumeric a = true) (hb : isAlphanumeric b = true)
    (hgap : Wordless gap) (h : ¬ Boundary a gap b) (after : List Char) :
    ∃ y vs, words (a :: (gap ++ b :: after)) = (a :: b :: y) :: vs := by
  obtain ⟨hnothing, hlevel⟩ := not_or.mp h
  cases gap with
  | cons c gap => exact absurd ⟨c, List.mem_cons_self, hgap c List.mem_cons_self⟩ hnothing
  | nil =>
      have hsame : sameWord a b = true := by
        simp only [sameWord, ha, hb, Bool.and_self, Bool.true_and, Bool.not_eq_true',
          Bool.and_eq_false_imp]
        exact fun hlower => Bool.eq_false_iff.mpr fun hupper => hlevel ⟨hlower, hupper⟩
      obtain ⟨y, vs, -, hwords⟩ := words_cons_of_sameWord hsame after
      exact ⟨y, vs, hwords⟩

theorem numbered_append (first : Nat) (us vs : List (List Char)) :
    numbered first (us ++ vs) = numbered first us ++ numbered (first + us.length) vs := by
  induction us generalizing first with
  | nil => rfl
  | cons u us ih =>
      rw [List.cons_append, numbered, numbered, ih, List.append_assoc, List.length_cons,
        Nat.add_assoc, Nat.add_comm 1]

theorem length_numbered (first : Nat) (ws : List (List Char)) :
    (numbered first ws).length = ws.flatten.length := by
  induction ws generalizing first with
  | nil => rfl
  | cons w ws ih => simp [numbered, ih]

/-- The characters from some place on, which is in a word `x ++ y` behind the words `us`. -/
theorem getElem?_numbered (us vs : List (List Char)) (x y : List Char) (k : Nat) :
    (numbered 0 (us ++ (x ++ y) :: vs))[(us.flatten ++ x).length + k]? =
      (y.map (·, us.length) ++ numbered (us.length + 1) vs)[k]? := by
  have hfront : (us.flatten ++ x).length =
      (numbered 0 us ++ x.map (·, us.length)).length := by
    simp [length_numbered]
  rw [numbered_append, Nat.zero_add, numbered, List.map_append, List.append_assoc,
    ← List.append_assoc, hfront, List.getElem?_append_right (Nat.le_add_right _ _),
    Nat.add_sub_cancel_left]

/-- Words are made of letters and numbers, all of those of the text and nothing else, and a letter
or number is in another word than the one before it exactly at a boundary; they are the words found
by reading from the start. -/
theorem words_cut_at_boundaries (cs : List Char) :
    scan cs = words cs ∧
    (∀ w ∈ words cs, w ≠ [] ∧ ∀ c ∈ w, isAlphanumeric c = true) ∧
    (words cs).flatten = cs.filter isAlphanumeric ∧
    ∀ before a gap b after, cs = before ++ a :: (gap ++ b :: after) →
      isAlphanumeric a = true → isAlphanumeric b = true → Wordless gap →
      ∃ m n,
        (numbered 0 (words cs))[(before.filter isAlphanumeric).length]? = some (a, m) ∧
        (numbered 0 (words cs))[(before.filter isAlphanumeric).length + 1]? = some (b, n) ∧
        (m ≠ n ↔ Boundary a gap b) := by
  refine ⟨scan_eq_words cs, fun w hw => ⟨ne_nil_of_mem_words hw, isAlphanumeric_of_mem_words hw⟩,
    flatten_words cs, ?_⟩
  rintro before a gap b after rfl ha hb hgap
  by_cases hboundary : Boundary a gap b
  · obtain ⟨y, vs, hbehind⟩ := exists_words_cons hb after
    have hhere := words_of_boundary ha hgap hboundary after
    obtain ⟨us, x, hwords, hfront⟩ := words_append_of_words_eq hhere before
    rw [hwords, ← hfront]
    refine ⟨us.length, us.length + 1, ?_, ?_, ?_⟩
    · exact getElem?_numbered us _ x [a] 0
    · rw [getElem?_numbered, hbehind]
      rfl
    · simp [hboundary]
  · obtain ⟨y, vs, hhere⟩ := exists_words_of_not_boundary ha hb hgap hboundary after
    obtain ⟨us, x, hwords, hfront⟩ := words_append_of_words_eq hhere before
    rw [hwords, ← hfront]
    refine ⟨us.length, us.length, ?_, ?_, ?_⟩
    · exact getElem?_numbered us vs x (a :: b :: y) 0
    · exact getElem?_numbered us vs x (a :: b :: y) 1
    · simp [hboundary]

/-- A capital beyond ASCII behind a small letter, and a digit behind a blank. -/
theorem words_cut_at_boundaries_beyond_ascii :
    let text := "maßÄ 1".toList
    words text = ["maß".toList, "Ä".toList, "1".toList] ∧
      scan text = ["maß".toList, "Ä".toList, "1".toList] ∧
      (words text).flatten = "maßÄ1".toList ∧
      (Wordless [] ∧ ∃ m n, (numbered 0 (words text))[2]? = some ('ß', m) ∧
        (numbered 0 (words text))[3]? = some ('Ä', n) ∧ m ≠ n) ∧
      (Wordless [' '] ∧ ∃ m n, (numbered 0 (words text))[3]? = some ('Ä', m) ∧
        (numbered 0 (words text))[4]? = some ('1', n) ∧ m ≠ n) ∧
      ∃ m n, (numbered 0 (words text))[1]? = some ('a', m) ∧
        (numbered 0 (words text))[2]? = some ('ß', n) ∧ m = n := by
  intro text
  obtain ⟨hscan, -, hflatten, hneighbours⟩ := words_cut_at_boundaries text
  have hwords : words text = ["maß".toList, "Ä".toList, "1".toList] := by decide +kernel
  have hnothing : Wordless [] := by decide
  have hblank : Wordless [' '] := by decide
  obtain ⟨m, n, hm, hn, hrise⟩ := hneighbours "ma".toList 'ß' [] 'Ä' " 1".toList rfl
    (by decide +kernel) (by decide +kernel) hnothing
  obtain ⟨k, l, hk, hl, hgap⟩ := hneighbours "maß".toList 'Ä' [' '] '1' [] rfl
    (by decide +kernel) (by decide +kernel) hblank
  obtain ⟨i, j, hi, hj, hlevel⟩ := hneighbours "m".toList 'a' [] 'ß' "Ä 1".toList rfl
    (by decide +kernel) (by decide +kernel) hnothing
  refine ⟨hwords, hscan.trans hwords, hflatten.trans (by decide +kernel), ⟨hnothing, m, n, hm, hn, ?_⟩,
    ⟨hblank, k, l, hk, hl, ?_⟩, i, j, hi, hj, ?_⟩
  · exact hrise.mpr (.inr (by decide +kernel))
  · exact hgap.mpr (.inl ⟨' ', by decide, by decide⟩)
  · by_contra hne
    rcases hlevel.mp hne with ⟨c, hc, -⟩ | ⟨-, hupper⟩
    · cases hc
    · exact absurd hupper (by decide +kernel)

end RowTypings.Naming
