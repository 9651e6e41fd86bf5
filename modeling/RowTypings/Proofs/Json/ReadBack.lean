import RowTypings.Proofs.Basic
import RowTypings.Proofs.Json.Keyed
import RowTypings.Proofs.Json.ReadNumber

/-!
Values read back from their compact text. The reader goes into so many lists and objects around each
other and no further: a value that nests no deeper is read back as it was, whatever follows its
text, and one that nests deeper is refused for that reason.
-/

namespace RowTypings

namespace Value

/-! ### Nesting -/

mutual

/-- How many lists and objects are open around each other at the deepest place of the value. -/
def nesting : Value → Nat
  | .array items => itemsNesting items + 1
  | .object fields => fieldsNesting fields + 1
  | .null => 0
  | .bool _ => 0
  | .number _ => 0
  | .text _ => 0

def itemsNesting : List Value → Nat
  | [] => 0
  | v :: rest => max (nesting v) (itemsNesting rest)

def fieldsNesting : List (String × Value) → Nat
  | [] => 0
  | (_, v) :: rest => max (nesting v) (fieldsNesting rest)

end

theorem itemsNesting_le_iff {items : List Value} {n : Nat} :
    itemsNesting items ≤ n ↔ ∀ v ∈ items, v.nesting ≤ n := by
  induction items with
  | nil => simp [itemsNesting]
  | cons v rest ih => rw [itemsNesting, Nat.max_le, ih, List.forall_mem_cons]

theorem fieldsNesting_le_iff {fields : List (String × Value)} {n : Nat} :
    fieldsNesting fields ≤ n ↔ ∀ f ∈ fields, f.2.nesting ≤ n := by
  induction fields with
  | nil => simp [fieldsNesting]
  | cons f rest ih => rw [fieldsNesting, Nat.max_le, ih, List.forall_mem_cons]

/-- Every number within the value is a whole one that fits a word, or a double that is read back
from its own text. -/
def NumbersKept : Value → Prop
  | .array items => ∀ v ∈ items, v.NumbersKept
  | .object fields => ∀ f ∈ fields, f.2.NumbersKept
  | .number (.integer n) => fitsWord n = true
  | .number (.float x) => Json.read (Json.compact (.number (.float x))) = .ok (.number (.float x))
  | _ => True
decreasing_by
  · exact sizeOf_lt_array ‹_›
  · exact sizeOf_lt_object ‹_›

/-- Every number within the value is a whole one that fits a word. -/
def WholeNumbers : Value → Prop
  | .array items => ∀ v ∈ items, v.WholeNumbers
  | .object fields => ∀ f ∈ fields, f.2.WholeNumbers
  | .number (.integer n) => fitsWord n = true
  | .number (.float _) => False
  | _ => True
decreasing_by
  · exact sizeOf_lt_array ‹_›
  · exact sizeOf_lt_object ‹_›

theorem WholeNumbers.numbersKept {v : Value} (h : v.WholeNumbers) : v.NumbersKept := by
  induction v using Value.induct with
  | null => simp [NumbersKept]
  | bool b => simp [NumbersKept]
  | text s => simp [NumbersKept]
  | number n =>
      cases n with
      | integer n => rwa [NumbersKept, ← WholeNumbers]
      | float x => simp [WholeNumbers] at h
  | array items ih =>
      rw [WholeNumbers] at h
      rw [NumbersKept]
      exact fun v hv => ih v hv (h v hv)
  | object fields ih =>
      rw [WholeNumbers] at h
      rw [NumbersKept]
      exact fun f hf => ih f hf (h f hf)

end Value

namespace Json

/-! ### Texts -/

/-- The characters of the compact text of a value. -/
def chars (v : Value) : List Char := (compact v).toList

def fieldChars (f : String × Value) : List Char :=
  '"' :: (f.1.toList.flatMap escape ++ '"' :: ':' :: chars f.2)

theorem compactItems_eq_map (items : List Value) : compactItems items = items.map compact := by
  induction items with
  | nil => rfl
  | cons v rest ih => rw [compactItems, ih, List.map_cons]

theorem compactFields_eq_map (fields : List (String × Value)) :
    compactFields fields = fields.map fun f => quote f.1 ++ ":" ++ compact f.2 := by
  induction fields with
  | nil => rfl
  | cons f rest ih => rw [compactFields, ih, List.map_cons]

theorem chars_array (items : List Value) :
    chars (.array items) = '[' :: ([','].intercalate (items.map chars) ++ [']']) := by
  have hparts : (items.map compact).map String.toList = items.map chars := List.map_map
  rw [chars, compact, compactItems_eq_map]
  simp [String.toList_intercalate, hparts]

theorem chars_object (fields : List (String × Value)) :
    chars (.object fields) = '{' :: ([','].intercalate (fields.map fieldChars) ++ ['}']) := by
  have hparts : (fields.map fun f => quote f.1 ++ ":" ++ compact f.2).map String.toList =
      fields.map fieldChars := by
    rw [List.map_map]
    refine List.map_congr_left fun f _ => ?_
    simp [fieldChars, chars, toList_quote]
  rw [chars, compact, compactFields_eq_map]
  simp [String.toList_intercalate, hparts]

theorem skipSpace_cons {c : Char} (h : isSpace c = false) (cs : List Char) :
    skipSpace (c :: cs) = c :: cs := by
  simp [skipSpace, h]

theorem isSpace_eq_false_of_isDigit {c : Char} (h : c.isDigit = true) : isSpace c = false := by
  refine Bool.eq_false_iff.mpr fun hspace => ?_
  simp only [isSpace, Bool.or_eq_true, beq_iff_eq] at hspace
  rcases hspace with ((rfl | rfl) | rfl) | rfl <;> cases h

/-- The text of a value starts with neither a blank nor a bracket that closes. -/
theorem exists_front_chars (v : Value) :
    ∃ c cs, chars v = c :: cs ∧ isSpace c = false ∧ c ≠ ']' := by
  cases v with
  | null => exact ⟨'n', _, rfl, rfl, by decide⟩
  | bool b => cases b <;> exact ⟨_, _, rfl, rfl, by decide⟩
  | number n =>
      obtain ⟨c, cs, hcs, hfirst⟩ := n.written_write.exists_front
      rcases hfirst with hdigit | rfl
      · refine ⟨c, cs, hcs, isSpace_eq_false_of_isDigit hdigit, ?_⟩
        rintro rfl
        cases hdigit
      · exact ⟨'-', cs, hcs, rfl, by decide⟩
  | text s => exact ⟨'"', _, toList_quote s, rfl, by decide⟩
  | array items => exact ⟨'[', _, chars_array items, rfl, by decide⟩
  | object fields => exact ⟨'{', _, chars_object fields, rfl, by decide⟩

theorem length_le_length_flatMap_escape (cs : List Char) :
    cs.length ≤ (cs.flatMap escape).length := by
  induction cs with
  | nil => exact Nat.le_refl 0
  | cons c cs ih =>
      have hpos : 0 < (escape c).length := by
        unfold escape
        split_ifs <;> simp
      rw [List.flatMap_cons, List.length_append, List.length_cons]
      omega

/-! ### Lists of parts -/

/-- The reader stops because lists and objects are open around each other more often than it
allows. -/
def TooDeep {α : Type} (r : Except Fault α) : Prop :=
  ∃ fault, r = .error fault ∧ fault.cause = .nestedTooDeep

/-- How a reader of lists goes on behind a part: to the next part behind a comma, and to the end at
the closing bracket. A part that nests too deep ends the reading. -/
structure ReadsParts {α : Type} (part : α → List Char) (good deep : α → Prop)
    (read : List α → Nat → List Char → Except Fault (Value × List Char))
    (make : List α → Value) (close : Char) : Prop where
  next (done : List α) (steps : Nat) (a b : α) (tail : List Char) (h : good a) :
    read done (steps + 1) (part a ++ ',' :: (part b ++ tail)) =
      read (a :: done) steps (part b ++ tail)
  last (done : List α) (steps : Nat) (a : α) (rest : List Char) (h : good a) :
    read done (steps + 1) (part a ++ close :: rest) = .ok (make (a :: done).reverse, rest)
  refuse (done : List α) (steps : Nat) (a : α) (rest : List Char) (h : deep a) :
    TooDeep (read done (steps + 1) (part a ++ rest))

namespace ReadsParts

variable {α : Type} {part : α → List Char} {good deep : α → Prop}
  {read : List α → Nat → List Char → Except Fault (Value × List Char)}
  {make : List α → Value} {close : Char} {as : List α} {steps : Nat}

theorem readAll (h : ReadsParts part good deep read make close) (hne : as ≠ [])
    (hgood : ∀ a ∈ as, good a) (hsteps : as.length ≤ steps) (done : List α) (rest : List Char) :
    read done steps ([','].intercalate (as.map part) ++ close :: rest) =
      .ok (make (done.reverse ++ as), rest) := by
  induction as generalizing done steps with
  | nil => exact absurd rfl hne
  | cons a as ih =>
      obtain ⟨steps, rfl⟩ := Nat.exists_eq_succ_of_ne_zero (Nat.ne_zero_of_lt hsteps)
      have ha : good a := hgood a List.mem_cons_self
      cases as with
      | nil =>
          rw [List.map_singleton, List.intercalate_singleton, h.last done steps a rest ha,
            List.reverse_cons]
      | cons b as =>
          obtain ⟨more, htail⟩ := exists_intercalate_cons [','] (part b) (as.map part)
          have hlater := ih (List.cons_ne_nil _ _) (List.forall_mem_cons.mp hgood).2
            (Nat.le_of_succ_le_succ hsteps) (a :: done)
          rw [List.map_cons, htail, List.append_assoc] at hlater
          rw [List.map_cons, List.map_cons, List.intercalate_cons_cons, htail, List.append_assoc,
            List.append_assoc, List.append_assoc, List.singleton_append,
            h.next done steps a b _ ha, hlater]
          simp

theorem refuseAll (h : ReadsParts part good deep read make close)
    (hall : ∀ a ∈ as, good a ∨ deep a) (hdeep : ∃ a ∈ as, deep a) (hsteps : as.length ≤ steps)
    (done : List α) (rest : List Char) :
    TooDeep (read done steps ([','].intercalate (as.map part) ++ rest)) := by
  induction as generalizing done steps with
  | nil => simp at hdeep
  | cons a as ih =>
      obtain ⟨steps, rfl⟩ := Nat.exists_eq_succ_of_ne_zero (Nat.ne_zero_of_lt hsteps)
      obtain ⟨hfirst, hlater⟩ := List.forall_mem_cons.mp hall
      by_cases ha : deep a
      · obtain ⟨more, htail⟩ := exists_intercalate_cons [','] (part a) (as.map part)
        rw [List.map_cons, htail, List.append_assoc]
        exact h.refuse done steps a _ ha
      -- the first part is read, so the one that nests too deep comes later
      · have hmore : ∃ b ∈ as, deep b := by
          obtain ⟨b, hb, hdeep⟩ := hdeep
          rcases List.mem_cons.mp hb with rfl | hb
          · exact absurd hdeep ha
          · exact ⟨b, hb, hdeep⟩
        cases as with
        | nil => simp at hmore
        | cons b as =>
            obtain ⟨more, htail⟩ := exists_intercalate_cons [','] (part b) (as.map part)
            have hrefused := ih hlater hmore (Nat.le_of_succ_le_succ hsteps) (a :: done)
            rw [List.map_cons, htail, List.append_assoc] at hrefused
            rw [List.map_cons, List.map_cons, List.intercalate_cons_cons, htail,
              List.append_assoc, List.append_assoc, List.append_assoc, List.singleton_append,
              h.next done steps a b _ (hfirst.resolve_right ha)]
            exact hrefused

end ReadsParts

/-! ### Items and fields -/

/-- The text of the value is read as the value, unless it goes on as a number. -/
def Reads (item : List Char → Reading Value) (v : Value) : Prop :=
  ∀ rest, Text.Ends NumberToken.isPart rest → item (chars v ++ rest) = .ok (v, rest)

def Refuses (item : List Char → Reading Value) (v : Value) : Prop :=
  ∀ rest, TooDeep (item (chars v ++ rest))

theorem TooDeep.bind {α β : Type} {r : Except Fault α} (h : TooDeep r)
    (f : α → Except Fault β) : TooDeep (r >>= f) := by
  obtain ⟨fault, rfl, hcause⟩ := h
  exact ⟨fault, rfl, hcause⟩

theorem readsParts_items (item : List Char → Reading Value) :
    ReadsParts chars (Reads item) (Refuses item) (readItems item) .array ']' where
  next done steps v w tail h := by
    obtain ⟨c, cs, hfront, hspace, hbracket⟩ := exists_front_chars w
    rw [readItems, h _ (Text.ends_cons (by decide)), hfront, List.cons_append]
    have hcomma : isSpace ',' = false := rfl
    simp only [bind, Except.bind, skipSpace_cons hcomma, skipSpace_cons hspace]
    split
    · contradiction
    · exact absurd (List.cons.inj ‹_›).1 hbracket
    · rfl
  last done steps v rest h := by
    rw [readItems, h _ (Text.ends_cons (by decide))]
    rfl
  refuse done steps v rest h := by
    rw [readItems]
    exact (h rest).bind _

theorem readField_fieldChars {limit : Nat} {f : String × Value} (h : f.1.length < limit)
    (item : List Char → Reading Value) (rest : List Char) :
    readField limit item (fieldChars f ++ rest) =
      (item (chars f.2 ++ rest)).bind fun r => .ok ((f.1, r.1), r.2) := by
  have hname := readString_quote h (':' :: (chars f.2 ++ rest))
  have htext : fieldChars f ++ rest =
      '"' :: (f.1.toList.flatMap escape ++ '"' :: ':' :: (chars f.2 ++ rest)) := by
    simp [fieldChars]
  rw [htext]
  change (readString [] limit _).bind _ = _
  rw [hname]
  rfl

theorem readsParts_fields (limit : Nat) (item : List Char → Reading Value) :
    ReadsParts fieldChars (fun f => f.1.length < limit ∧ Reads item f.2)
      (fun f => f.1.length < limit ∧ Refuses item f.2) (readFields limit item)
      (fun fields => .object (Fields.ofList fields)) '}' where
  next done steps f g tail h := by
    rw [readFields, readField_fieldChars h.1, h.2 _ (Text.ends_cons (by decide))]
    rfl
  last done steps f rest h := by
    rw [readFields, readField_fieldChars h.1, h.2 _ (Text.ends_cons (by decide))]
    rfl
  refuse done steps f rest h := by
    rw [readFields, readField_fieldChars h.1]
    exact ((h.2 rest).bind _).bind _

/-! ### Values -/

variable {limit levels : Nat}

theorem readValue_array (cs : List Char) :
    readValue limit (levels + 1) ('[' :: cs) = readArray limit (readValue limit levels) cs := by
  rw [readValue]
  rfl

theorem readValue_object (cs : List Char) :
    readValue limit (levels + 1) ('{' :: cs) = readObject limit (readValue limit levels) cs := by
  rw [readValue]
  rfl

theorem tooDeep_array (cs : List Char) : TooDeep (readValue limit 0 ('[' :: cs)) := by
  rw [readValue]
  exact ⟨_, rfl, rfl⟩

theorem tooDeep_object (cs : List Char) : TooDeep (readValue limit 0 ('{' :: cs)) := by
  rw [readValue]
  exact ⟨_, rfl, rfl⟩

theorem readValue_minus (cs : List Char) :
    readValue limit levels ('-' :: cs) =
      (readNumber true cs).bind fun r => .ok (.number r.1, r.2) := by
  rw [readValue.eq_def]
  rfl

/-- What does not start like any other value is read as a number. -/
theorem readValue_digit {c : Char} (h : c.isDigit = true) (cs : List Char) :
    readValue limit levels (c :: cs) =
      (readNumber false (c :: cs)).bind fun r => .ok (.number r.1, r.2) := by
  rw [readValue.eq_def]
  simp only [skipSpace_cons (isSpace_eq_false_of_isDigit h)]
  split
  · contradiction
  all_goals
    rename_i heq
    obtain ⟨rfl, rfl⟩ := List.cons.inj heq
    first
    | cases h
    | rw [if_pos h]; rfl

theorem reads_text {s : String} (h : s.length < limit) :
    Reads (readValue limit levels) (.text s) := by
  intro rest _
  have hread := readString_quote h rest
  have htext : chars (.text s) ++ rest = '"' :: (s.toList.flatMap escape ++ '"' :: rest) := by
    simp [chars, compact, toList_quote]
  rw [htext, readValue.eq_def]
  change (readString [] limit _).bind _ = _
  rw [hread]
  rfl

theorem reads_integer {n : Int} (h : fitsWord n = true) :
    Reads (readValue limit levels) (.number (.integer n)) := by
  intro rest hrest
  have hread := readNumber_toDigits (decide (n < 0)) (natAbs_lt_of_fitsWord h) hrest
  rw [wholeNumber_natAbs h] at hread
  have htext : chars (.number (.integer n)) = NumberToken.integerChars n :=
    NumberToken.toList_toString n
  rw [htext, NumberToken.integerChars]
  by_cases hn : n < 0
  · rw [decide_eq_true hn] at hread
    rw [if_pos hn, List.append_assoc, List.singleton_append, readValue_minus, hread]
    rfl
  · rw [decide_eq_false hn] at hread
    rw [if_neg hn, List.nil_append]
    cases hdigits : Nat.toDigits 10 n.natAbs with
    | nil => exact absurd hdigits Nat.toDigits_ne_nil
    | cons c ds =>
        have hc : c.isDigit = true :=
          NumberToken.isDigit_of_mem_toDigits (hdigits ▸ List.mem_cons_self)
        rw [hdigits] at hread
        rw [List.cons_append, readValue_digit hc, ← List.cons_append, hread]
        rfl

theorem isSpace_eq_false_of_isPart {c : Char} (h : NumberToken.isPart c = true) :
    isSpace c = false := by
  refine Bool.eq_false_iff.mpr fun hspace => ?_
  simp only [isSpace, Bool.or_eq_true, beq_iff_eq] at hspace
  rcases hspace with ((rfl | rfl) | rfl) | rfl <;> cases h

/-- A number that is read back from its own text is read back wherever that text stands. -/
theorem reads_number {n : Number} (h : read (compact (.number n)) = .ok (.number n)) :
    Reads (readValue limit levels) (.number n) := by
  obtain ⟨negative, ds, hchars, hvalue⟩ : ∃ negative ds, ds <:+ chars (.number n) ∧
      ∀ limit levels rest, readValue limit levels (chars (.number n) ++ rest) =
        (readNumber negative (ds ++ rest)).bind fun r => .ok (.number r.1, r.2) := by
    obtain ⟨c, cs, hcs, hdigit | rfl⟩ := n.written_write.exists_front
    · refine ⟨false, c :: cs, hcs ▸ List.suffix_refl _, fun limit levels rest => ?_⟩
      rw [chars, compact, hcs, List.cons_append, readValue_digit hdigit]
    · refine ⟨true, cs, ?_, fun limit levels rest => ?_⟩
      · rw [chars, compact, hcs]
        exact List.suffix_cons _ _
      · rw [chars, compact, hcs, List.cons_append, readValue_minus]
  obtain ⟨⟨v, behind⟩, hread, hleft⟩ := exists_of_bind_eq_ok h
  have hown := hvalue ((compact (.number n)).length + 1) nestingLimit []
  rw [List.append_nil, List.append_nil, chars, hread] at hown
  obtain ⟨⟨m, left⟩, hnumber, heq⟩ := exists_of_bind_eq_ok hown.symm
  cases heq
  obtain ⟨hsuffix, happend⟩ := local_readNumber negative _ _ _ hnumber
  dsimp only at hleft
  -- nothing is left, for what is left is made of parts of a number and yet is white space
  obtain rfl : left = [] := by
    cases left with
    | nil => rfl
    | cons c left =>
        have hmem : c ∈ chars (.number n) := (hsuffix.trans hchars).subset List.mem_cons_self
        have hspace := isSpace_eq_false_of_isPart (n.written_write.isPart c hmem)
        rw [skipSpace_cons hspace] at hleft
        cases hleft
  cases hleft
  intro rest hrest
  rw [hvalue, happend rest hrest]
  rfl

theorem readArray_items (item : List Char → Reading Value) (v : Value) (items : List Value)
    (rest : List Char) :
    readArray limit item ([','].intercalate ((v :: items).map chars) ++ rest) =
      readItems item [] limit ([','].intercalate ((v :: items).map chars) ++ rest) := by
  obtain ⟨c, cs, hfront, hspace, hbracket⟩ := exists_front_chars v
  obtain ⟨more, htext⟩ := exists_intercalate_cons [','] (chars v) (items.map chars)
  rw [List.map_cons, htext, hfront, List.cons_append, List.cons_append, readArray,
    skipSpace_cons hspace]
  split
  · contradiction
  · exact absurd (List.cons.inj ‹_›).1 hbracket
  · rfl

theorem reads_array {items : List Value} (hsteps : items.length ≤ limit)
    (h : ∀ v ∈ items, Reads (readValue limit levels) v) :
    Reads (readValue limit (levels + 1)) (.array items) := by
  intro rest _
  rw [chars_array, List.cons_append, List.append_assoc, List.singleton_append, readValue_array]
  cases items with
  | nil => rfl
  | cons v items =>
      rw [readArray_items, (readsParts_items _).readAll (List.cons_ne_nil _ _) h hsteps]
      rfl

theorem refuses_array {items : List Value} (hsteps : items.length ≤ limit)
    (hall : ∀ v ∈ items, Reads (readValue limit levels) v ∨ Refuses (readValue limit levels) v)
    (hdeep : ∃ v ∈ items, Refuses (readValue limit levels) v) :
    Refuses (readValue limit (levels + 1)) (.array items) := by
  intro rest
  rw [chars_array, List.cons_append, List.append_assoc, readValue_array]
  cases items with
  | nil => simp at hdeep
  | cons v items =>
      rw [readArray_items]
      exact (readsParts_items _).refuseAll hall hdeep hsteps [] _

theorem readObject_fields (item : List Char → Reading Value) (f : String × Value)
    (fields : List (String × Value)) (rest : List Char) :
    readObject limit item ([','].intercalate ((f :: fields).map fieldChars) ++ rest) =
      readFields limit item [] limit
        ([','].intercalate ((f :: fields).map fieldChars) ++ rest) := by
  obtain ⟨more, htext⟩ := exists_intercalate_cons [','] (fieldChars f) (fields.map fieldChars)
  rw [List.map_cons, htext]
  rfl

theorem reads_object {fields : List (String × Value)} (hnames : (Fields.names fields).Nodup)
    (hsteps : fields.length ≤ limit)
    (h : ∀ f ∈ fields, f.1.length < limit ∧ Reads (readValue limit levels) f.2) :
    Reads (readValue limit (levels + 1)) (.object fields) := by
  intro rest _
  rw [chars_object, List.cons_append, List.append_assoc, List.singleton_append, readValue_object]
  cases fields with
  | nil => rfl
  | cons f fields =>
      rw [readObject_fields, (readsParts_fields limit _).readAll (List.cons_ne_nil _ _) h hsteps,
        List.reverse_nil, List.nil_append, Fields.ofList_eq_self hnames]

theorem refuses_object {fields : List (String × Value)} (hsteps : fields.length ≤ limit)
    (hall : ∀ f ∈ fields, f.1.length < limit ∧
      (Reads (readValue limit levels) f.2 ∨ Refuses (readValue limit levels) f.2))
    (hdeep : ∃ f ∈ fields, Refuses (readValue limit levels) f.2) :
    Refuses (readValue limit (levels + 1)) (.object fields) := by
  intro rest
  rw [chars_object, List.cons_append, List.append_assoc, readValue_object]
  cases fields with
  | nil => simp at hdeep
  | cons f fields =>
      rw [readObject_fields]
      refine (readsParts_fields limit _).refuseAll ?_ ?_ hsteps [] _
      · intro g hg
        obtain ⟨hname, hvalue⟩ := hall g hg
        exact hvalue.imp (fun h => ⟨hname, h⟩) fun h => ⟨hname, h⟩
      · obtain ⟨g, hg, hrefused⟩ := hdeep
        exact ⟨g, hg, (hall g hg).1, hrefused⟩

/-- A value is read where it nests no deeper than the reader goes, and is refused where it does. -/
def Settled (limit levels : Nat) (v : Value) : Prop :=
  (v.nesting ≤ levels ∧ Reads (readValue limit levels) v) ∨
    (levels < v.nesting ∧ Refuses (readValue limit levels) v)

theorem Settled.reads {v : Value} (h : Settled limit levels v) (hv : v.nesting ≤ levels) :
    Reads (readValue limit levels) v := by
  rcases h with ⟨-, hread⟩ | ⟨hdeep, -⟩
  · exact hread
  · exact absurd hv (Nat.not_le_of_lt hdeep)

theorem Settled.refuses {v : Value} (h : Settled limit levels v) (hv : levels < v.nesting) :
    Refuses (readValue limit levels) v := by
  rcases h with ⟨hshallow, -⟩ | ⟨-, hrefused⟩
  · exact absurd hshallow (Nat.not_le_of_lt hv)
  · exact hrefused

theorem settled_array {items : List Value} (hsteps : items.length ≤ limit)
    (h : ∀ levels, ∀ v ∈ items, Settled limit levels v) (levels : Nat) :
    Settled limit levels (.array items) := by
  cases levels with
  | zero =>
      refine .inr ⟨Nat.succ_pos _, fun rest => ?_⟩
      rw [chars_array]
      exact tooDeep_array _
  | succ levels =>
      by_cases hshallow : ∀ v ∈ items, v.nesting ≤ levels
      · refine .inl ⟨Nat.succ_le_succ (Value.itemsNesting_le_iff.mpr hshallow), ?_⟩
        exact reads_array hsteps fun v hv => (h levels v hv).reads (hshallow v hv)
      · have hdeep := Nat.lt_of_not_le (mt Value.itemsNesting_le_iff.mp hshallow)
        refine .inr ⟨Nat.succ_lt_succ hdeep, ?_⟩
        push Not at hshallow
        obtain ⟨v, hv, hdeep⟩ := hshallow
        refine refuses_array hsteps (fun w hw => (h levels w hw).imp And.right And.right) ?_
        exact ⟨v, hv, (h levels v hv).refuses hdeep⟩

theorem settled_object {fields : List (String × Value)} (hnames : (Fields.names fields).Nodup)
    (hsteps : fields.length ≤ limit) (hlengths : ∀ f ∈ fields, f.1.length < limit)
    (h : ∀ levels, ∀ f ∈ fields, Settled limit levels f.2) (levels : Nat) :
    Settled limit levels (.object fields) := by
  cases levels with
  | zero =>
      refine .inr ⟨Nat.succ_pos _, fun rest => ?_⟩
      rw [chars_object]
      exact tooDeep_object _
  | succ levels =>
      by_cases hshallow : ∀ f ∈ fields, f.2.nesting ≤ levels
      · refine .inl ⟨Nat.succ_le_succ (Value.fieldsNesting_le_iff.mpr hshallow), ?_⟩
        refine reads_object hnames hsteps fun f hf => ⟨hlengths f hf, ?_⟩
        exact (h levels f hf).reads (hshallow f hf)
      · have hdeep := Nat.lt_of_not_le (mt Value.fieldsNesting_le_iff.mp hshallow)
        refine .inr ⟨Nat.succ_lt_succ hdeep, ?_⟩
        push Not at hshallow
        obtain ⟨f, hf, hdeep⟩ := hshallow
        refine refuses_object hsteps (fun g hg => ?_) ⟨f, hf, (h levels f hf).refuses hdeep⟩
        exact ⟨hlengths g hg, (h levels g hg).imp And.right And.right⟩

theorem settled {v : Value} (hkeyed : v.Keyed) (hnumbers : v.NumbersKept)
    (hlimit : (chars v).length < limit) (levels : Nat) : Settled limit levels v := by
  induction v using Value.induct generalizing levels with
  | null =>
      refine .inl ⟨Nat.zero_le _, fun rest _ => ?_⟩
      rw [readValue.eq_def]
      rfl
  | bool b =>
      refine .inl ⟨Nat.zero_le _, fun rest _ => ?_⟩
      rw [readValue.eq_def]
      cases b <;> rfl
  | number n =>
      cases n with
      | integer n =>
          rw [Value.NumbersKept] at hnumbers
          exact .inl ⟨Nat.zero_le _, reads_integer hnumbers⟩
      | float x =>
          rw [Value.NumbersKept] at hnumbers
          exact .inl ⟨Nat.zero_le _, reads_number hnumbers⟩
  | text s =>
      have hlength : s.length ≤ (chars (.text s)).length := by
        have hescaped := length_le_length_flatMap_escape s.toList
        rw [String.length_toList] at hescaped
        rw [chars, compact, toList_quote, List.length_cons, List.length_append]
        omega
      exact .inl ⟨Nat.zero_le _, reads_text (Nat.lt_of_le_of_lt hlength hlimit)⟩
  | array items ih =>
      rw [Value.NumbersKept] at hnumbers
      rw [chars_array, List.length_cons, List.length_append, List.length_singleton] at hlimit
      refine settled_array ?_ (fun levels v hv => ?_) levels
      · have hcount := length_le_succ_length_intercalate (items.map chars)
        rw [List.length_map] at hcount
        omega
      · have hpart := (infix_intercalate [','] (List.mem_map_of_mem (f := chars) hv)).length_le
        exact ih v hv (hkeyed.item hv) (hnumbers v hv) (by omega) levels
  | object fields ih =>
      rw [Value.NumbersKept] at hnumbers
      rw [chars_object, List.length_cons, List.length_append, List.length_singleton] at hlimit
      have hparts : ∀ f ∈ fields, f.1.length < limit ∧ (chars f.2).length < limit := by
        intro f hf
        have hpart := (infix_intercalate [','] (List.mem_map_of_mem (f := fieldChars) hf)).length_le
        have hname := length_le_length_flatMap_escape f.1.toList
        rw [fieldChars, List.length_cons, List.length_append, List.length_cons,
          List.length_cons] at hpart
        rw [String.length_toList] at hname
        constructor <;> omega
      refine settled_object hkeyed.names_nodup ?_ (fun f hf => (hparts f hf).1)
        (fun levels f hf => ?_) levels
      · have hcount := length_le_succ_length_intercalate (fields.map fieldChars)
        rw [List.length_map] at hcount
        omega
      · exact ih f hf (hkeyed.field hf) (hnumbers f hf) (hparts f hf).2 levels

/-- The whole text leaves steps enough for every string and every list in it. -/
theorem settled_compact {v : Value} (hkeyed : v.Keyed) (hnumbers : v.NumbersKept) :
    Settled ((compact v).length + 1) nestingLimit v := by
  refine settled hkeyed hnumbers ?_ nestingLimit
  rw [chars, String.length_toList]
  exact Nat.lt_succ_self _

/-- The compact text of a value is read as the value. -/
theorem read_compact {v : Value} (hkeyed : v.Keyed) (hnumbers : v.NumbersKept)
    (hnesting : v.nesting ≤ nestingLimit) : read (compact v) = .ok v := by
  have htext := (settled_compact hkeyed hnumbers).reads hnesting [] (Text.ends_nil _)
  rw [List.append_nil, chars] at htext
  rw [read, htext]
  rfl

/-- The compact text of a value that nests too deep is refused. -/
theorem tooDeep_compact {v : Value} (hkeyed : v.Keyed) (hnumbers : v.NumbersKept)
    (hnesting : nestingLimit < v.nesting) : TooDeep (read (compact v)) := by
  have htext := (settled_compact hkeyed hnumbers).refuses hnesting []
  rw [List.append_nil, chars] at htext
  exact htext.bind _

end Json

end RowTypings
