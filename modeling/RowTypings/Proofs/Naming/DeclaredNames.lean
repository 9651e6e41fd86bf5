import RowTypings.Proofs.Naming.Identifier
import RowTypings.Proofs.Naming.Words
import RowTypings.Proofs.Text.CaseMapping

/-!
When the names derived from a source identity are identifiers. A digit of ASCII in front is guarded
by a prefix and a reserved word by a suffix, but a number beyond ASCII is no start for an identifier
either, and a letter whose other case carries a mark brings the mark into the name. Names from which
both are absent are identifiers, and no others are.
-/

namespace RowTypings.Naming

open Text

/-! ### Words in another case -/

/-- The word as part of a name, with a capital in front: no mark comes with the capital, nor with
the small letters after it. -/
def Capitalizes (w : List Char) : Prop :=
  (∀ c ∈ w.head?, c.toNat ∉ markedCapitals) ∧ 'İ' ∉ w.tail

theorem not_isIdentifierPart_caseMark :
    ∀ n ∈ caseMarks, ¬ isIdentifierPart (Char.ofNat n) = true := by
  decide +kernel

theorem isIdentifierPart_of_isAlphanumeric {c : Char} (h : isAlphanumeric c = true) :
    isIdentifierPart c = true := by
  simp [isIdentifierPart, h]

theorem forall_isIdentifierPart_iff {mapping : Char → List Char} {marked : List Nat}
    (h : KeepsLetters mapping marked) {c : Char} (hc : isAlphanumeric c = true) :
    (∀ d ∈ mapping c, isIdentifierPart d = true) ↔ c.toNat ∉ marked := by
  constructor
  · intro hparts hmarked
    obtain ⟨n, hn, hmem⟩ := h.exists_mark c hmarked
    exact not_isIdentifierPart_caseMark n hn (hparts _ hmem)
  · intro hplain d hd
    exact isIdentifierPart_of_isAlphanumeric (h.isAlphanumeric_of_mem c hc hplain d hd)

theorem forall_isIdentifierPart_lowercase_iff {w : List Char}
    (hw : ∀ c ∈ w, isAlphanumeric c = true) :
    (∀ d ∈ w.flatMap lowercase, isIdentifierPart d = true) ↔ 'İ' ∉ w := by
  induction w with
  | nil => simp
  | cons c w ih =>
      obtain ⟨hc, hw⟩ := List.forall_mem_cons.mp hw
      have hdotted : c.toNat ∉ [0x130] ↔ 'İ' ≠ c := by
        rw [List.mem_singleton, ne_comm, ne_eq, ← Char.toNat_inj]
        rfl
      rw [List.flatMap_cons, List.forall_mem_append, ih hw, List.mem_cons, not_or,
        forall_isIdentifierPart_iff lowercase_keepsLetters hc, hdotted]

theorem forall_isIdentifierPart_capitalize_iff {w : List Char}
    (hw : ∀ c ∈ w, isAlphanumeric c = true) :
    (∀ d ∈ capitalize w, isIdentifierPart d = true) ↔ Capitalizes w := by
  cases w with
  | nil => simp [capitalize, Capitalizes]
  | cons c w =>
      obtain ⟨hc, hw⟩ := List.forall_mem_cons.mp hw
      rw [capitalize, List.forall_mem_append, forall_isIdentifierPart_lowercase_iff hw,
        forall_isIdentifierPart_iff uppercase_keepsLetters hc]
      simp [Capitalizes]

theorem forall_isIdentifierPart_words_iff {ws : List (List Char)}
    (hws : ∀ w ∈ ws, ∀ c ∈ w, isAlphanumeric c = true) :
    (∀ d ∈ ws.flatMap capitalize, isIdentifierPart d = true) ↔ ∀ w ∈ ws, Capitalizes w := by
  rw [List.forall_mem_flatMap]
  exact forall₂_congr fun w hw => forall_isIdentifierPart_capitalize_iff (hws w hw)

/-! ### Names -/

/-- The first word starts with a letter or with a digit of ASCII. -/
def OpensName (ws : List (List Char)) : Prop :=
  ∀ w ∈ ws.head?, ∀ c ∈ w.head?, isAlphabetic c = true ∨ c.isDigit = true

theorem isDigit_eq_false_of_isAlphabetic {c : Char} (h : isAlphabetic c = true) :
    c.isDigit = false := by
  refine Bool.eq_false_iff.mpr fun hdigit => ?_
  have hrange : 48 ≤ c.toNat ∧ c.toNat ≤ 57 := Char.isDigit_iff_toNat.mp hdigit
  have hascii : isAscii c = true := decide_eq_true (by omega)
  have hall : isAlphabetic c = true → c.isDigit = false := by
    apply ascii_induction (P := fun c => isAlphabetic c = true → c.isDigit = false) _ hascii
    decide
  rw [hall h] at hdigit
  cases hdigit

/-- What stands first in the other case of a letter or number starts an identifier exactly if that
is a letter, and is a digit exactly if that is one. -/
theorem exists_front_of_isAlphanumeric {mapping : Char → List Char} {marked : List Nat}
    (h : KeepsLetters mapping marked) {c : Char} (hc : isAlphanumeric c = true) :
    ∃ d rest, mapping c = d :: rest ∧ isIdentifierStart d = isAlphabetic c ∧
      d.isDigit = c.isDigit := by
  cases hcase : isAlphabetic c with
  | true =>
      obtain ⟨d, rest, heq, hd⟩ := h.exists_front c hcase
      refine ⟨d, rest, heq, by simp [isIdentifierStart, hd], ?_⟩
      rw [isDigit_eq_false_of_isAlphabetic hd, isDigit_eq_false_of_isAlphabetic hcase]
  | false =>
      refine ⟨c, [], h.eq_self c hcase, ?_, rfl⟩
      have hmark : (c == '_') = false ∧ (c == '$') = false :=
        ⟨beq_eq_false hc (by decide), beq_eq_false hc (by decide)⟩
      simp [isIdentifierStart, hcase, hmark]

/-- A name with a prefix before a digit, when `d` stands first in it for the letter or number
`c`. -/
theorem isIdentifier_guarded_iff {c d : Char} {rest start : List Char}
    (hd : isIdentifierStart d = isAlphabetic c) (hdigit : d.isDigit = c.isDigit)
    (hstart : isIdentifier start = true) :
    isIdentifier (if startsWithDigit (d :: rest) then start ++ d :: rest else d :: rest) = true ↔
      (isAlphabetic c = true ∨ c.isDigit = true) ∧
        ∀ e ∈ d :: rest, isIdentifierPart e = true := by
  have hne : start ≠ [] := by
    rintro rfl
    cases hstart
  rw [startsWithDigit, hdigit]
  split
  · rename_i hc
    rw [isIdentifier_append_iff hne]
    simp [hstart, hc]
  · rename_i hc
    have hpart : isAlphabetic c = true → isIdentifierPart d = true := fun hletter =>
      isIdentifierPart_of_isIdentifierStart (hd.trans hletter)
    simp only [isIdentifier, hd, Bool.and_eq_true, List.all_eq_true, hc,
      List.forall_mem_cons]
    tauto

theorem not_mem_reservedWords_of_underscore {name : String}
    (h : name.toList.head? = some '_' ∨ name.toList.getLast? = some '_') :
    isReserved name = false := by
  have hwords : ∀ word ∈ reservedWords,
      word.toList.head? ≠ some '_' ∧ word.toList.getLast? ≠ some '_' := by decide +kernel
  refine Bool.eq_false_iff.mpr fun hmem => ?_
  obtain ⟨hfirst, hlast⟩ := hwords name (List.contains_iff_mem.mp hmem)
  rcases h with h | h
  · exact hfirst h
  · exact hlast h

theorem isReserved_constantName (identity : String) :
    isReserved (constantName identity) = false := by
  unfold constantName
  extract_lets base name
  split_ifs with hempty hdigit hreserved
  · decide
  · apply not_mem_reservedWords_of_underscore
    simp
  · apply not_mem_reservedWords_of_underscore
    simp
  · exact Bool.eq_false_iff.mpr hreserved

theorem isIdentifier_reservedWords : ∀ word ∈ reservedWords, isIdentifier word.toList = true := by
  decide +kernel

variable {identity : String} {w : List Char} {ws : List (List Char)}

/-- An interface name is guarded against a digit alone. -/
theorem isIdentifier_interfaceName_iff_of_cons
    (hws : words (stripExtension identity.toList) = w :: ws) :
    isIdentifier (interfaceName identity).toList = true ↔
      OpensName (w :: ws) ∧ ∀ v ∈ w :: ws, Capitalizes v := by
  have hwords : ∀ v ∈ w :: ws, ∀ c ∈ v, isAlphanumeric c = true := fun v hv =>
    isAlphanumeric_of_mem_words (hws ▸ hv)
  have hne : w ≠ [] := ne_nil_of_mem_words (hws ▸ List.mem_cons_self)
  obtain ⟨c, cs, rfl⟩ := List.exists_cons_of_ne_nil hne
  have hc : isAlphanumeric c = true := hwords _ List.mem_cons_self c List.mem_cons_self
  obtain ⟨d, rest, hfront, hstart, hdigit⟩ :=
    exists_front_of_isAlphanumeric uppercase_keepsLetters hc
  have hbase : pascalCase (stripExtension identity.toList) =
      d :: (rest ++ cs.flatMap lowercase ++ ws.flatMap capitalize) := by
    simp [pascalCase, hws, capitalize, hfront]
  have hname : (interfaceName identity).toList =
      if startsWithDigit (pascalCase (stripExtension identity.toList)) then
        "Type".toList ++ pascalCase (stripExtension identity.toList)
      else pascalCase (stripExtension identity.toList) := by
    rw [interfaceName, hbase]
    rw [if_neg (by simp)]
    split <;> simp
  rw [hname, hbase, isIdentifier_guarded_iff hstart hdigit (by decide), ← hbase, pascalCase, hws,
    forall_isIdentifierPart_words_iff hwords]
  simp [OpensName]

/-- A constant name is guarded against a digit and against reserved words; the suffix of these
leaves an identifier an identifier. -/
theorem isIdentifier_constantName_iff_of_cons
    (hws : words (stripExtension identity.toList) = w :: ws) :
    isIdentifier (constantName identity).toList = true ↔
      OpensName (w :: ws) ∧ 'İ' ∉ w ∧ ∀ v ∈ ws, Capitalizes v := by
  have hwords : ∀ v ∈ w :: ws, ∀ c ∈ v, isAlphanumeric c = true := fun v hv =>
    isAlphanumeric_of_mem_words (hws ▸ hv)
  obtain ⟨hw, hlater⟩ := List.forall_mem_cons.mp hwords
  have hne : w ≠ [] := ne_nil_of_mem_words (hws ▸ List.mem_cons_self)
  obtain ⟨c, cs, rfl⟩ := List.exists_cons_of_ne_nil hne
  obtain ⟨d, rest, hfront, hstart, hdigit⟩ :=
    exists_front_of_isAlphanumeric lowercase_keepsLetters (hw c List.mem_cons_self)
  have hcamel : camelCase (stripExtension identity.toList) =
      (c :: cs).flatMap lowercase ++ ws.flatMap capitalize := by
    rw [camelCase, hws]
  have hbase : camelCase (stripExtension identity.toList) =
      d :: (rest ++ cs.flatMap lowercase ++ ws.flatMap capitalize) := by
    simp [hcamel, hfront]
  have hname : isIdentifier (constantName identity).toList = true ↔
      isIdentifier (if startsWithDigit (camelCase (stripExtension identity.toList)) then
        "_".toList ++ camelCase (stripExtension identity.toList)
      else camelCase (stripExtension identity.toList)) = true := by
    rw [constantName, hbase]
    rw [if_neg (by simp)]
    split_ifs with hopens hreserved
    · simp
    · have hword := isIdentifier_reservedWords _ (List.contains_iff_mem.mp hreserved)
      rw [String.toList_ofList] at hword
      rw [String.toList_append, String.toList_ofList]
      exact iff_of_true (isIdentifier_append hword (by simp [isIdentifierPart])) hword
    · rw [String.toList_ofList]
  rw [hname, hbase, isIdentifier_guarded_iff hstart hdigit (by decide), ← hbase, hcamel,
    List.forall_mem_append, forall_isIdentifierPart_lowercase_iff hw,
    forall_isIdentifierPart_words_iff hlater]
  simp [OpensName]

/-- The names derived from a source identity are identifiers exactly if the first of its words opens
a name and none of them brings a mark into it; and a constant is never called by a reserved word. -/
theorem declared_names_isIdentifier_iff (identity : String) :
    let ws := words (stripExtension identity.toList)
    (isIdentifier (interfaceName identity).toList = true ↔
      OpensName ws ∧ ∀ w ∈ ws, Capitalizes w) ∧
    (isIdentifier (constantName identity).toList = true ↔
      OpensName ws ∧ (∀ w ∈ ws.head?, 'İ' ∉ w) ∧ ∀ w ∈ ws.tail, Capitalizes w) ∧
    isReserved (constantName identity) = false := by
  intro ws
  refine ⟨?_, ?_, isReserved_constantName identity⟩
  · cases hws : ws with
    | nil =>
        have hname : interfaceName identity = "Content" := by
          rw [interfaceName, pascalCase, show words (stripExtension identity.toList) = [] from hws]
          rfl
        rw [hname]
        exact iff_of_true (by decide) ⟨by simp [OpensName], by simp⟩
    | cons w rest => exact isIdentifier_interfaceName_iff_of_cons hws
  · cases hws : ws with
    | nil =>
        have hname : constantName identity = "content" := by
          rw [constantName, camelCase, show words (stripExtension identity.toList) = [] from hws]
          rfl
        rw [hname]
        exact iff_of_true (by decide) ⟨by simp [OpensName], by simp, by simp⟩
    | cons w rest => simpa using isIdentifier_constantName_iff_of_cons hws

/-- A digit beyond ASCII passes the guard against digits and starts no identifier; nor does a
caron on its own belong into one. -/
theorem declared_names_isIdentifier_iff_but_arabic_digit :
    isIdentifier (interfaceName "٣.csv").toList = false ∧
      isIdentifier (constantName "٣.csv").toList = false ∧
      isIdentifier (interfaceName "ǰ.csv").toList = false := by
  obtain ⟨hinterface, hconstant, -⟩ := declared_names_isIdentifier_iff "٣.csv"
  obtain ⟨hcaron, -, -⟩ := declared_names_isIdentifier_iff "ǰ.csv"
  have hopens : ¬ OpensName (words (stripExtension "٣.csv".toList)) := by
    intro h
    have hfirst := h ['٣'] (by decide +kernel) '٣' rfl
    revert hfirst
    decide +kernel
  have hmarked : ¬ ∀ w ∈ words (stripExtension "ǰ.csv".toList), Capitalizes w := by
    intro h
    have hfirst := (h ['ǰ'] (by decide +kernel)).1 'ǰ' rfl
    revert hfirst
    decide
  refine ⟨Bool.eq_false_iff.mpr ?_, Bool.eq_false_iff.mpr ?_, Bool.eq_false_iff.mpr ?_⟩
  · exact fun h => hopens (hinterface.mp h).1
  · exact fun h => hopens (hconstant.mp h).1
  · exact fun h => hmarked (hcaron.mp h).2

end RowTypings.Naming
