import Mathlib.Order.Bounds.Defs
import RowTypings.Proofs.Naming.Identifier
import RowTypings.Proofs.TypeScript.KeyTable
import RowTypings.Proofs.TypeScript.QuotedText

/-!
What the keys of siblings are. Each is its base key, or the base key with the least number that no
earlier sibling has taken; each is written as an identifier or as a string literal, and either way
the property it calls can be read off it.
-/

namespace RowTypings.TypeScript

open Naming

namespace PropertyKey

/-! ### Written keys -/

/-- A key without quotes is an identifier. -/
def Valid (k : PropertyKey) : Prop := k.quoted = false → isIdentifier k.text.toList = true

/-- The property called by an identifier or a string literal, and what stands behind it. -/
def read : List Char → Option (String × List Char)
  | [] => none
  | c :: cs =>
    if c == '"' then readQuoted (c :: cs)
    else if isIdentifierStart c then
      some (String.ofList ((c :: cs).takeWhile isIdentifierPart),
        (c :: cs).dropWhile isIdentifierPart)
    else none

theorem isIdentifierStart_ne_quote {c : Char} (h : isIdentifierStart c = true) :
    (c == '"') = false :=
  Text.beq_eq_false h (by decide)

/-- A written key is read as its text, whichever way it is written. -/
theorem read_write_append {k : PropertyKey} (hk : k.Valid) {rest : List Char}
    (hrest : Text.Ends isIdentifierPart rest) :
    read (k.write.toList ++ rest) = some (k.text, rest) := by
  unfold write
  cases hquoted : k.quoted with
  | true =>
      have hread := readQuoted_quote_append k.text rest
      rw [toList_quote, List.cons_append] at hread
      rw [if_pos rfl, toList_quote, List.cons_append, read, hread]
      rfl
  | false =>
      have hidentifier := hk hquoted
      have hparts := isIdentifierPart_of_mem hidentifier
      have htake := Text.takeWhile_append hparts hrest
      have hdrop := Text.dropWhile_append hparts hrest
      rw [if_neg Bool.false_ne_true]
      cases htext : k.text.toList with
      | nil =>
          rw [htext] at hidentifier
          cases hidentifier
      | cons c cs =>
          rw [htext] at hidentifier htake hdrop
          have hstart := (Bool.and_eq_true_iff.mp hidentifier).1
          rw [List.cons_append] at htake hdrop ⊢
          rw [read, isIdentifierStart_ne_quote hstart, if_neg Bool.false_ne_true, if_pos hstart,
            htake, hdrop, ← htext, String.ofList_toList]

/-- A key starts neither with a blank nor with a closing brace. -/
theorem front_of_read {cs : List Char} {r : String × List Char} (h : read cs = some r) :
    ∃ c rest, cs = c :: rest ∧ Json.isSpace c = false ∧ c ≠ '}' := by
  cases cs with
  | nil => cases h
  | cons c cs =>
      refine ⟨c, cs, rfl, ?_, ?_⟩
      · refine Bool.eq_false_iff.mpr fun hspace => ?_
        simp only [Json.isSpace, Bool.or_eq_true, beq_iff_eq] at hspace
        rcases hspace with ((rfl | rfl) | rfl) | rfl <;> cases h
      · rintro rfl
        cases h

theorem write_head_eq_quote_iff {k : PropertyKey} (hk : k.Valid) :
    k.write.toList.head? = some '"' ↔ k.quoted = true := by
  unfold write
  cases hquoted : k.quoted with
  | true => simp [toList_quote]
  | false =>
      have hidentifier := hk hquoted
      cases htext : k.text.toList with
      | nil => simp [htext]
      | cons c cs =>
          rw [htext] at hidentifier
          have hne := isIdentifierStart_ne_quote (Bool.and_eq_true_iff.mp hidentifier).1
          simpa [htext] using ne_of_beq_false hne

/-- A written key tells where it ends, and tells the key. -/
theorem write_append_inj {k l : PropertyKey} (hk : k.Valid) (hl : l.Valid) {rest rest' : List Char}
    (hrest : Text.Ends isIdentifierPart rest) (hrest' : Text.Ends isIdentifierPart rest')
    (h : k.write.toList ++ rest = l.write.toList ++ rest') : k = l ∧ rest = rest' := by
  have hread := congrArg read h
  rw [read_write_append hk hrest, read_write_append hl hrest'] at hread
  obtain ⟨htext, rfl⟩ := Prod.mk.inj (Option.some.inj hread)
  have hwrite := List.append_cancel_right h
  have hquoted : k.quoted = l.quoted := by
    rw [Bool.eq_iff_iff, ← write_head_eq_quote_iff hk, ← write_head_eq_quote_iff hl, hwrite]
  obtain ⟨text, quoted⟩ := k
  obtain ⟨text', quoted'⟩ := l
  exact ⟨congrArg₂ PropertyKey.mk htext hquoted, rfl⟩

theorem oneLine_write {k : PropertyKey} (hk : k.Valid) : Text.OneLine k.write.toList := by
  unfold write
  split
  · exact oneLine_quote k.text
  · rename_i hbare
    have hidentifier := hk (Bool.eq_false_iff.mpr hbare)
    exact fun c hc => Text.inline_of_isIdentifierPart (isIdentifierPart_of_mem hidentifier c hc)

theorem valid_ofName (name : String) : (ofName name).Valid := by
  intro hbare
  by_cases hidentifier : isIdentifier (camelCase name.toList) = true
  · simp [ofName, hidentifier]
  · simp [ofName, hidentifier] at hbare

theorem Valid.withNumber {k : PropertyKey} (hk : k.Valid) (n : Nat) : (k.withNumber n).Valid := by
  intro hbare
  have hdigits : ∀ c ∈ (toString n).toList, isIdentifierPart c = true := by
    intro c hc
    rw [Nat.toString_eq_repr, Nat.toList_repr] at hc
    exact isIdentifierPart_of_isDigit (Nat.isDigit_of_mem_toDigits (by decide) (by decide) hc)
  rw [PropertyKey.withNumber, String.toList_append]
  exact isIdentifier_append (hk hbare) hdigits

/-! ### Least free numbers -/

/-- `base` where that is new, else `base` with the least number from two on that makes it so. -/
def LeastFree (earlier : List String) (base key : PropertyKey) : Prop :=
  if base.text ∈ earlier then
    ∃ n, IsLeast {n | 2 ≤ n ∧ (base.withNumber n).text ∉ earlier} n ∧ key = base.withNumber n
  else key = base

theorem leastFree_fresh (used : List String) (k : PropertyKey) :
    LeastFree used k (fresh used k) := by
  unfold LeastFree
  by_cases hused : k.text ∈ used
  · have hcontains : used.contains k.text = true := List.contains_iff_mem.mpr hused
    rw [if_pos hused, fresh, if_pos hcontains]
    cases hfind : (List.range' 2 used.length).find?
        fun n => !used.contains (k.withNumber n).text with
    | none =>
        obtain ⟨n, hn, hfree⟩ := exists_withNumber_not_mem hused
        have htaken := List.find?_eq_none.mp hfind n hn
        simp [hfree] at htaken
    | some n =>
        obtain ⟨hfree, hn, hleast⟩ := List.find?_range'_eq_some.mp hfind
        refine ⟨n, ⟨⟨?_, by simpa using hfree⟩, fun m hm => ?_⟩, rfl⟩
        · exact (List.mem_range'_1.mp hn).1
        · by_contra hlt
          have htaken := hleast m hm.1 (Nat.not_le.mp hlt)
          simp [hm.2] at htaken
  · have hcontains : used.contains k.text = false := by simpa using hused
    rw [if_neg hused, fresh, hcontains, if_neg Bool.false_ne_true]

theorem LeastFree.valid {earlier : List String} {base key : PropertyKey}
    (h : LeastFree earlier base key) (hbase : base.Valid) : key.Valid := by
  unfold LeastFree at h
  split at h
  · obtain ⟨n, -, rfl⟩ := h
    exact hbase.withNumber n
  · exact h ▸ hbase

theorem LeastFree.congr {earlier other : List String} {base key : PropertyKey}
    (hmem : ∀ text, text ∈ earlier ↔ text ∈ other) (h : LeastFree earlier base key) :
    LeastFree other base key := by
  simpa only [LeastFree, hmem] using h

/-! ### Siblings -/

theorem valid_of_mem_assign {used names : List String} {k : PropertyKey}
    (h : k ∈ assign used names) : k.Valid := by
  induction names generalizing used with
  | nil => cases h
  | cons name names ih =>
      rcases List.mem_cons.mp h with rfl | h
      · exact (leastFree_fresh used _).valid (valid_ofName name)
      · exact ih h

/-- What is used when a sibling gets its key is what was used before and the keys since. -/
theorem leastFree_assign (used : List String) {names : List String} {j : Nat} {name : String}
    (h : names[j]? = some name) : ∃ key, (assign used names)[j]? = some key ∧
      LeastFree (((assign used names).take j).map text ++ used) (ofName name) key := by
  induction names generalizing used j with
  | nil => simp at h
  | cons first names ih =>
      cases j with
      | zero =>
          cases h
          exact ⟨_, rfl, leastFree_fresh used (ofName name)⟩
      | succ j =>
          obtain ⟨key, hkey, hleast⟩ := ih ((fresh used (ofName first)).text :: used) h
          refine ⟨key, hkey, hleast.congr fun other => ?_⟩
          simp only [assign, List.take_succ_cons, List.map_cons, List.mem_append, List.mem_cons]
          tauto

end PropertyKey

theorem valid_of_mem_uniqueKeys {names : List String} {k : PropertyKey} (h : k ∈ uniqueKeys names) :
    k.Valid :=
  PropertyKey.valid_of_mem_assign h

theorem valid_of_mem_keyed {s : Schema} {f : String × Property} {key : PropertyKey}
    (h : (f, key) ∈ keyed s) : key.Valid :=
  valid_of_mem_uniqueKeys (List.of_mem_zip h).2

/-- There are as many keys as names; each is written as an identifier or a string literal, and read
as what no other is read as; and each is the base key of its name, if that is new among the keys
before, or else the base key with the least number that is. The base key of a name is its camel case
where that is an identifier, else the name itself in quotes. -/
theorem uniqueKeys_leastFree (names : List String) :
    (uniqueKeys names).length = names.length ∧
    (∀ k ∈ uniqueKeys names,
      (k.write = k.text ∧ isIdentifier k.text.toList = true ∨ k.write = quote k.text) ∧
        PropertyKey.read k.write.toList = some (k.text, [])) ∧
    ((uniqueKeys names).map PropertyKey.text).Nodup ∧
    ∀ j name, names[j]? = some name →
      let inflected := camelCase name.toList
      let base : PropertyKey :=
        if isIdentifier inflected = true then ⟨String.ofList inflected, false⟩ else ⟨name, true⟩
      ∃ key, (uniqueKeys names)[j]? = some key ∧
        PropertyKey.LeastFree (((uniqueKeys names).take j).map PropertyKey.text) base key := by
  refine ⟨length_uniqueKeys names, fun k hk => ⟨?_, ?_⟩, nodup_texts_uniqueKeys names,
    fun j name hname => ?_⟩
  · have hvalid := valid_of_mem_uniqueKeys hk
    cases hquoted : k.quoted with
    | true => exact .inr (by rw [PropertyKey.write, hquoted, if_pos rfl])
    | false =>
        exact .inl ⟨by rw [PropertyKey.write, hquoted, if_neg Bool.false_ne_true], hvalid hquoted⟩
  · have hread := PropertyKey.read_write_append (valid_of_mem_uniqueKeys hk) (Text.ends_nil _)
    rwa [List.append_nil] at hread
  · obtain ⟨key, hkey, hleast⟩ := PropertyKey.leastFree_assign [] hname
    rw [List.append_nil] at hleast
    exact ⟨key, hkey, hleast⟩

/-- The camel case of the third name is taken, by the number of the second key. -/
theorem uniqueKeys_leastFree_taken_number :
    let names := ["user name", "userName", "user_name_2"]
    ((uniqueKeys names).take 2).map PropertyKey.text = ["userName", "userName2"] ∧
      (uniqueKeys names)[2]? = some ⟨"userName22", false⟩ ∧
      PropertyKey.LeastFree ["userName", "userName2"] ⟨"userName2", false⟩
        ⟨"userName22", false⟩ := by
  intro names
  have hbefore : ((uniqueKeys names).take 2).map PropertyKey.text = ["userName", "userName2"] := by
    decide +kernel
  have hkeys : (uniqueKeys names)[2]? = some ⟨"userName22", false⟩ := by decide +kernel
  have hinflected : camelCase "user_name_2".toList = "userName2".toList := by decide +kernel
  have hidentifier : isIdentifier "userName2".toList = true := by decide +kernel
  obtain ⟨-, -, -, hleast⟩ := uniqueKeys_leastFree names
  obtain ⟨key, hkey, hfree⟩ := hleast 2 "user_name_2" rfl
  rw [hkeys] at hkey
  cases hkey
  rw [hbefore, hinflected, if_pos hidentifier, String.ofList_toList] at hfree
  exact ⟨hbefore, hkeys, hfree⟩

end RowTypings.TypeScript
