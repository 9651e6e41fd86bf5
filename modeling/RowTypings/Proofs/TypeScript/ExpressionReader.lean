import RowTypings.Proofs.Basic
import RowTypings.Proofs.Json.NumberText
import RowTypings.Proofs.TypeScript.SiblingKeys

/-!
Reading value expressions: words, numbers, string literals, dates, lists and objects. An expression
that is written out of its parts is read as what its parts are read as, wherever it stands.
-/

namespace RowTypings

open Json (skipSpace)
open Naming (isIdentifierStart isIdentifierPart)

namespace TypeScript

/-- What stands in the text of an expression. A number is known by its token, the key of an entry
with the way in which it is written. -/
inductive Expression where
  | null
  | bool (b : Bool)
  | number (token : String)
  | text (s : String)
  | date (s : String)
  | array (items : List Expression)
  | object (entries : List (PropertyKey × Expression))

/-! ### Keys -/

namespace PropertyKey

/-- A key, quoted if it starts with a quote, and what stands behind it. -/
def readKey (cs : List Char) : Option (PropertyKey × List Char) :=
  (read cs).map fun r => (⟨r.1, cs.head? == some '"'⟩, r.2)

theorem readKey_write_append {k : PropertyKey} (hk : k.Valid) {rest : List Char}
    (hrest : Text.Ends isIdentifierPart rest) :
    readKey (k.write.toList ++ rest) = some (k, rest) := by
  have hread := read_write_append hk hrest
  have hwritten := read_write_append hk (Text.ends_nil _)
  obtain ⟨c, cs, hfront, -, -⟩ := front_of_read hwritten
  rw [List.append_nil] at hfront
  have hhead : ((k.write.toList ++ rest).head? == some '"') = k.quoted := by
    rw [List.head?_append_of_ne_nil _ (by rw [hfront]; exact List.cons_ne_nil _ _),
      Bool.eq_iff_iff, beq_iff_eq]
    exact write_head_eq_quote_iff hk
  rw [readKey, hread, Option.map_some, hhead]

end PropertyKey

namespace Expression

/-! ### The reader -/

def ofWord? (word : List Char) : Option Expression :=
  if word == "null".toList then some .null
  else if word == "true".toList then some (.bool true)
  else if word == "false".toList then some (.bool false)
  else none

/-- What stands behind `new`: the date of a text, and what stands behind its parenthesis. -/
def readDate : List Char → Option (Expression × List Char)
  | ' ' :: 'D' :: 'a' :: 't' :: 'e' :: '(' :: cs =>
    (readQuoted cs).bind fun r =>
      match r.2 with
      | ')' :: rest => some (.date r.1, rest)
      | _ => none
  | _ => none

def readWord (cs : List Char) : Option (Expression × List Char) :=
  let word := cs.takeWhile isIdentifierPart
  let rest := cs.dropWhile isIdentifierPart
  if word == "new".toList then readDate rest else (ofWord? word).map fun e => (e, rest)

def readNumber (cs : List Char) : Option (Expression × List Char) :=
  let token := cs.takeWhile NumberToken.isPart
  if (NumberToken.ofChars? token).isSome then
    some (.number (String.ofList token), cs.dropWhile NumberToken.isPart)
  else none

mutual

/-- The expression at the front of a text, and what stands behind it. Every step takes a character
of the text, so there are never more steps than characters. -/
def readFrom : Nat → List Char → Option (Expression × List Char)
  | 0, _ => none
  | _, [] => none
  | steps + 1, c :: cs =>
    if c == '"' then (readQuoted (c :: cs)).map fun r => (.text r.1, r.2)
    else if c == '[' then
      match skipSpace cs with
      | ']' :: rest => some (.array [], rest)
      | cs => (readItems steps cs).map fun r => (.array r.1, r.2)
    else if c == '{' then
      match skipSpace cs with
      | '}' :: rest => some (.object [], rest)
      | cs => (readEntries steps cs).map fun r => (.object r.1, r.2)
    else if isIdentifierStart c then readWord (c :: cs)
    else readNumber (c :: cs)

/-- The items of a list up to its closing bracket; at least one is due. -/
def readItems : Nat → List Char → Option (List Expression × List Char)
  | 0, _ => none
  | steps + 1, cs =>
    (readFrom steps cs).bind fun item =>
      match skipSpace item.2 with
      | ',' :: rest => (readItems steps (skipSpace rest)).map fun r => (item.1 :: r.1, r.2)
      | ']' :: rest => some ([item.1], rest)
      | _ => none

/-- The entries of an object up to its closing brace; at least one is due. -/
def readEntries : Nat → List Char → Option (List (PropertyKey × Expression) × List Char)
  | 0, _ => none
  | steps + 1, cs =>
    (PropertyKey.readKey cs).bind fun key =>
      match skipSpace key.2 with
      | ':' :: rest =>
        (readFrom steps (skipSpace rest)).bind fun value =>
          match skipSpace value.2 with
          | ',' :: rest =>
            (readEntries steps (skipSpace rest)).map fun r => ((key.1, value.1) :: r.1, r.2)
          | '}' :: rest => some ([(key.1, value.1)], rest)
          | _ => none
      | _ => none

end

/-- The one expression of a text. -/
def read (text : String) : Option Expression :=
  match readFrom text.length text.toList with
  | some (e, []) => some e
  | _ => none

/-! ### What stands first -/

theorem skipSpace_cons {c : Char} (h : Json.isSpace c = false) (cs : List Char) :
    skipSpace (c :: cs) = c :: cs := by
  simp [skipSpace, h]

theorem skipSpace_space (cs : List Char) : skipSpace (' ' :: cs) = skipSpace cs := rfl

/-- An expression starts neither with a blank nor with a closing bracket. -/
theorem front_of_readFrom {steps : Nat} {cs : List Char} {r : Expression × List Char}
    (h : readFrom steps cs = some r) :
    ∃ c rest, cs = c :: rest ∧ Json.isSpace c = false ∧ c ≠ ']' := by
  cases steps with
  | zero => cases h
  | succ steps =>
      cases cs with
      | nil => cases h
      | cons c cs =>
          refine ⟨c, cs, rfl, ?_, ?_⟩
          · refine Bool.eq_false_iff.mpr fun hspace => ?_
            simp only [Json.isSpace, Bool.or_eq_true, beq_iff_eq] at hspace
            rcases hspace with ((rfl | rfl) | rfl) | rfl <;> cases h
          · rintro rfl
            cases h

/-- A character that a word or a number in front of it would take. -/
def isTokenPart (c : Char) : Bool := isIdentifierPart c || NumberToken.isPart c

theorem ends_identifierPart {rest : List Char} (h : Text.Ends isTokenPart rest) :
    Text.Ends isIdentifierPart rest :=
  fun c hc => (Bool.or_eq_false_iff.mp (h c hc)).1

theorem ends_numberPart {rest : List Char} (h : Text.Ends isTokenPart rest) :
    Text.Ends NumberToken.isPart rest :=
  fun c hc => (Bool.or_eq_false_iff.mp (h c hc)).2

theorem ends_of_closing {c : Char} (h : c = ',' ∨ c = ']' ∨ c = ' ') (rest : List Char) :
    Text.Ends isTokenPart (c :: rest) := by
  rcases h with rfl | rfl | rfl <;> exact Text.ends_cons (by decide)

/-- The text is read as that expression, wherever it stands. -/
def Reads (cs : List Char) (e : Expression) : Prop :=
  ∀ steps rest, cs.length ≤ steps → Text.Ends isTokenPart rest →
    readFrom steps (cs ++ rest) = some (e, rest)

theorem Reads.front {cs : List Char} {e : Expression} (h : Reads cs e) (rest : List Char) :
    skipSpace (cs ++ rest) = cs ++ rest ∧ ∀ tail, cs ++ rest ≠ ']' :: tail := by
  have hread := h cs.length [] (Nat.le_refl _) (Text.ends_nil _)
  rw [List.append_nil] at hread
  obtain ⟨c, cs, rfl, hspace, hbracket⟩ := front_of_readFrom hread
  refine ⟨skipSpace_cons hspace _, fun tail heq => ?_⟩
  rw [List.cons_append] at heq
  exact hbracket (List.cons.inj heq).1

/-- The first character takes a step, so as many are left as there are characters behind it. -/
theorem reads_cons {c : Char} {cs : List Char} {e : Expression}
    (h : ∀ steps rest, cs.length ≤ steps → Text.Ends isTokenPart rest →
      readFrom (steps + 1) (c :: (cs ++ rest)) = some (e, rest)) : Reads (c :: cs) e := by
  intro steps rest hsteps hrest
  obtain ⟨steps, rfl⟩ := Nat.exists_eq_add_of_le' hsteps
  rw [List.length_cons, ← Nat.add_assoc, List.cons_append]
  exact h _ rest (Nat.le_add_left _ _) hrest

/-! ### Words, numbers and string literals -/

theorem readFrom_word {c : Char} (h : isIdentifierStart c = true) (steps : Nat) (cs : List Char) :
    readFrom (steps + 1) (c :: cs) = readWord (c :: cs) := by
  have hne {d : Char} (hd : isIdentifierStart d = false) : ¬ (c == d) = true :=
    Bool.eq_false_iff.mp (Text.beq_eq_false h hd)
  rw [readFrom, if_neg (hne (by decide)), if_neg (hne (by decide)), if_neg (hne (by decide)),
    if_pos h]

theorem readFrom_number {c : Char} (h : NumberToken.isPart c = true)
    (hstart : isIdentifierStart c = false) (steps : Nat) (cs : List Char) :
    readFrom (steps + 1) (c :: cs) = readNumber (c :: cs) := by
  have hne {d : Char} (hd : NumberToken.isPart d = false) : ¬ (c == d) = true :=
    Bool.eq_false_iff.mp (Text.beq_eq_false h hd)
  rw [readFrom, if_neg (hne (by decide)), if_neg (hne (by decide)), if_neg (hne (by decide)),
    if_neg (Bool.eq_false_iff.mp hstart)]

theorem reads_word {word : List Char} {e : Expression} (hword : Naming.isIdentifier word = true)
    (he : ofWord? word = some e) : Reads word e := by
  have hnew : (word == "new".toList) = false := by
    refine beq_false_of_ne ?_
    rintro rfl
    cases he
  have hread {rest : List Char} (hrest : Text.Ends isTokenPart rest) :
      readWord (word ++ rest) = some (e, rest) := by
    have hparts := Naming.isIdentifierPart_of_mem hword
    rw [readWord, Text.takeWhile_append hparts (ends_identifierPart hrest),
      Text.dropWhile_append hparts (ends_identifierPart hrest), hnew, if_neg Bool.false_ne_true,
      he, Option.map_some]
  cases word with
  | nil => cases hword
  | cons c cs =>
      refine reads_cons fun steps rest _ hrest => ?_
      rw [readFrom_word (Bool.and_eq_true_iff.mp hword).1]
      exact hread hrest

theorem not_isIdentifierStart {c : Char} (h : c.isDigit = true ∨ c = '-') :
    isIdentifierStart c = false := by
  rcases h with h | rfl
  · have hrange : 48 ≤ c.toNat ∧ c.toNat ≤ 57 := Char.isDigit_iff_toNat.mp h
    have hdigits : ∀ n < 58, 48 ≤ n → isIdentifierStart (Char.ofNat n) = false := by decide
    simpa using hdigits c.toNat (by omega) hrange.1
  · decide

theorem reads_number {cs : List Char} (h : NumberToken.Written cs) :
    Reads cs (.number (String.ofList cs)) := by
  have hread {rest : List Char} (hrest : Text.Ends isTokenPart rest) :
      readNumber (cs ++ rest) = some (.number (String.ofList cs), rest) := by
    rw [readNumber, Text.takeWhile_append h.isPart (ends_numberPart hrest),
      Text.dropWhile_append h.isPart (ends_numberPart hrest)]
    exact if_pos h.isSome
  obtain ⟨c, cs, rfl, hfirst⟩ := h.exists_front
  refine reads_cons fun steps rest _ hrest => ?_
  rw [readFrom_number (h.isPart c List.mem_cons_self) (not_isIdentifierStart hfirst)]
  exact hread hrest

theorem reads_quote (s : String) : Reads (quote s).toList (.text s) := by
  rw [toList_quote]
  refine reads_cons fun steps rest _ _ => ?_
  have hread := readQuoted_quote_append s rest
  rw [toList_quote, List.cons_append] at hread
  rw [readFrom, if_pos (beq_self_eq_true _), hread, Option.map_some]

theorem readWord_new {rest : List Char} (hrest : Text.Ends isIdentifierPart rest) :
    readWord (['n', 'e', 'w'] ++ rest) = readDate rest := by
  have hparts : ∀ c ∈ ['n', 'e', 'w'], isIdentifierPart c = true := List.all_eq_true.mp rfl
  rw [readWord, Text.takeWhile_append hparts hrest, Text.dropWhile_append hparts hrest]
  exact if_pos rfl

theorem readDate_quote_append (s : String) (rest : List Char) :
    readDate (' ' :: 'D' :: 'a' :: 't' :: 'e' :: '(' :: ((quote s).toList ++ ')' :: rest)) =
      some (.date s, rest) := by
  rw [readDate, readQuoted_quote_append]
  rfl

theorem reads_date (s : String) :
    Reads (['n', 'e', 'w', ' ', 'D', 'a', 't', 'e', '('] ++ ((quote s).toList ++ [')']))
      (.date s) := by
  refine reads_cons fun steps rest _ _ => ?_
  have hblank : Text.Ends isIdentifierPart
      (' ' :: 'D' :: 'a' :: 't' :: 'e' :: '(' :: ((quote s).toList ++ ')' :: rest)) :=
    Text.ends_cons (by decide)
  have hread := readWord_new hblank
  rw [readDate_quote_append] at hread
  rw [readFrom_word (by decide), ← hread]
  simp

/-! ### Items and entries -/

/-- One item is read up to the comma or the bracket behind it. -/
theorem readItems_item {cs : List Char} {e : Expression} (h : Reads cs e) {steps : Nat}
    (hsteps : cs.length ≤ steps) {rest : List Char} (hrest : Text.Ends isTokenPart rest) :
    readItems (steps + 1) (cs ++ rest) =
      match skipSpace rest with
      | ',' :: rest => (readItems steps (skipSpace rest)).map fun r => (e :: r.1, r.2)
      | ']' :: rest => some ([e], rest)
      | _ => none := by
  rw [readItems, h steps rest hsteps hrest, Option.bind_some]

/-- The text is read as an entry of an object: a key, and the expression behind the colon. -/
def ReadsEntry (cs : List Char) (entry : PropertyKey × Expression) : Prop :=
  ∃ value, entry.1.Valid ∧ Reads value entry.2 ∧
    cs = entry.1.write.toList ++ ':' :: ' ' :: value

variable {entry : PropertyKey × Expression}

theorem ReadsEntry.front {cs : List Char} (h : ReadsEntry cs entry) (rest : List Char) :
    skipSpace (cs ++ rest) = cs ++ rest ∧ ∀ tail, cs ++ rest ≠ '}' :: tail := by
  obtain ⟨value, hkey, -, rfl⟩ := h
  have hcolon : Text.Ends isIdentifierPart (':' :: ' ' :: (value ++ rest)) :=
    Text.ends_cons (by decide)
  obtain ⟨c, cs, hfront, hspace, hbrace⟩ :=
    PropertyKey.front_of_read (PropertyKey.read_write_append hkey hcolon)
  rw [List.append_assoc, List.cons_append, List.cons_append, hfront]
  exact ⟨skipSpace_cons hspace _, fun tail heq => hbrace (List.cons.inj heq).1⟩

/-- One entry is read up to the comma or the brace behind it. -/
theorem readEntries_entry {cs : List Char} (h : ReadsEntry cs entry) {steps : Nat}
    (hsteps : cs.length ≤ steps) {rest : List Char} (hrest : Text.Ends isTokenPart rest) :
    readEntries (steps + 1) (cs ++ rest) =
      match skipSpace rest with
      | ',' :: rest =>
        (readEntries steps (skipSpace rest)).map fun r => (entry :: r.1, r.2)
      | '}' :: rest => some ([entry], rest)
      | _ => none := by
  obtain ⟨value, hkey, hvalue, rfl⟩ := h
  have hcolon : Text.Ends isIdentifierPart (':' :: ' ' :: (value ++ rest)) :=
    Text.ends_cons (by decide)
  simp only [List.length_append, List.length_cons] at hsteps
  have hread := hvalue steps rest (by omega) hrest
  rw [List.append_assoc, List.cons_append, List.cons_append, readEntries,
    PropertyKey.readKey_write_append hkey hcolon, Option.bind_some, skipSpace_cons (by decide)]
  change (readFrom steps (skipSpace (' ' :: (value ++ rest)))).bind _ = _
  rw [skipSpace_space, (hvalue.front rest).1, hread, Option.bind_some]

/-- A reader that reads single parts, before a comma and before what closes the list, reads a list
of parts. Both the items of lists and the entries of objects are read so. -/
theorem read_intercalate {α : Type} {part : List Char → α → Prop}
    {read : Nat → List Char → Option (List α × List Char)} {closing rest : List Char}
    (hfront : ∀ cs a tail, part cs a → skipSpace (cs ++ tail) = cs ++ tail)
    (hlast : ∀ steps cs a, part cs a → cs.length ≤ steps →
      read (steps + 1) (cs ++ closing) = some ([a], rest))
    (hnext : ∀ steps cs a tail, part cs a → cs.length ≤ steps →
      read (steps + 1) (cs ++ ',' :: ' ' :: tail) =
        (read steps (skipSpace tail)).map fun r => (a :: r.1, r.2))
    {texts : List (List Char)} {as : List α} (h : List.Forall₂ part texts as) (hne : texts ≠ [])
    {steps : Nat} (hsteps : ([',', ' '].intercalate texts).length < steps) :
    read steps ([',', ' '].intercalate texts ++ closing) = some (as, rest) := by
  induction h generalizing steps with
  | nil => exact absurd rfl hne
  | @cons cs a texts as hfirst hmore ih =>
      obtain ⟨steps, rfl⟩ := Nat.exists_eq_succ_of_ne_zero (Nat.ne_zero_of_lt hsteps)
      cases hmore with
      | nil =>
          rw [List.intercalate_singleton] at hsteps ⊢
          exact hlast steps cs a hfirst (Nat.le_of_lt_succ hsteps)
      | @cons cs' a' texts as hsecond hmore =>
          -- the next part stands first in what is left, so only the blank before it is skipped
          obtain ⟨more, htail⟩ := exists_intercalate_cons [',', ' '] cs' texts
          have hskip := hfront cs' a' (more ++ closing) hsecond
          rw [← List.append_assoc, ← htail] at hskip
          rw [List.intercalate_cons_cons] at hsteps ⊢
          simp only [List.length_append, List.length_cons, List.length_nil] at hsteps
          have hlater := ih (List.cons_ne_nil _ _)
            (show ([',', ' '].intercalate (cs' :: texts)).length < steps by omega)
          rw [List.append_assoc, List.append_assoc, List.cons_append, List.cons_append,
            List.nil_append, hnext steps cs a _ hfirst (by omega), hskip, hlater, Option.map_some]

/-! ### Lists and objects -/

theorem readFrom_items {steps : Nat} {cs : List Char} (hskip : skipSpace cs = cs)
    (hfront : ∀ tail, cs ≠ ']' :: tail) :
    readFrom (steps + 1) ('[' :: cs) = (readItems steps cs).map fun r => (.array r.1, r.2) := by
  rw [readFrom, if_neg (by decide), if_pos (beq_self_eq_true _), hskip]
  split
  · exact absurd rfl (hfront _)
  · rfl

theorem readFrom_entries {steps : Nat} {cs : List Char} (hskip : skipSpace cs = cs)
    (hfront : ∀ tail, cs ≠ '}' :: tail) :
    readFrom (steps + 1) ('{' :: ' ' :: cs) =
      (readEntries steps cs).map fun r => (.object r.1, r.2) := by
  rw [readFrom, if_neg (by decide), if_neg (by decide), if_pos (beq_self_eq_true _),
    skipSpace_space, hskip]
  split
  · exact absurd rfl (hfront _)
  · rfl

theorem reads_items {texts : List (List Char)} {items : List Expression}
    (h : List.Forall₂ Reads texts items) :
    Reads ('[' :: ([',', ' '].intercalate texts ++ [']'])) (.array items) := by
  refine reads_cons fun steps rest hsteps _ => ?_
  rw [List.append_assoc, List.singleton_append]
  cases h with
  | nil => rfl
  | @cons cs e texts items hfirst hmore =>
      have hread : readItems steps ([',', ' '].intercalate (cs :: texts) ++ ']' :: rest) =
          some (e :: items, rest) := by
        refine read_intercalate (fun cs e tail h => (h.front tail).1)
          (fun steps cs e h hlength => ?_) (fun steps cs e tail h hlength => ?_)
          (.cons hfirst hmore) (List.cons_ne_nil _ _) ?_
        · rw [readItems_item h hlength (ends_of_closing (by simp) rest)]
          rfl
        · rw [readItems_item h hlength (ends_of_closing (by simp) _)]
          rfl
        · rw [List.length_append, List.length_singleton] at hsteps
          omega
      obtain ⟨more, hmore⟩ := exists_intercalate_cons [',', ' '] cs texts
      have hfront := hfirst.front (more ++ ']' :: rest)
      rw [← List.append_assoc, ← hmore] at hfront
      rw [readFrom_items hfront.1 hfront.2, hread, Option.map_some]

theorem reads_no_entries : Reads ['{', '}'] (.object []) :=
  reads_cons fun _ _ _ _ => rfl

theorem reads_entries {texts : List (List Char)} {entries : List (PropertyKey × Expression)}
    (h : List.Forall₂ ReadsEntry texts entries) (hne : texts ≠ []) :
    Reads ('{' :: ' ' :: ([',', ' '].intercalate texts ++ [' ', '}'])) (.object entries) := by
  refine reads_cons fun steps rest hsteps _ => ?_
  rw [List.cons_append, List.append_assoc, List.cons_append, List.cons_append, List.nil_append]
  cases h with
  | nil => exact absurd rfl hne
  | @cons cs entry texts entries hfirst hmore =>
      have hread : readEntries steps ([',', ' '].intercalate (cs :: texts) ++
          ' ' :: '}' :: rest) = some (entry :: entries, rest) := by
        refine read_intercalate (fun cs entry tail h => (h.front tail).1)
          (fun steps cs entry h hlength => ?_) (fun steps cs entry tail h hlength => ?_)
          (.cons hfirst hmore) hne ?_
        · rw [readEntries_entry h hlength (ends_of_closing (by simp) _)]
          rfl
        · rw [readEntries_entry h hlength (ends_of_closing (by simp) _)]
          rfl
        · rw [List.length_cons, List.length_append] at hsteps
          omega
      obtain ⟨more, hmore⟩ := exists_intercalate_cons [',', ' '] cs texts
      have hfront := hfirst.front (more ++ ' ' :: '}' :: rest)
      rw [← List.append_assoc, ← hmore] at hfront
      rw [readFrom_entries hfront.1 hfront.2, hread, Option.map_some]

end Expression

end TypeScript

end RowTypings
