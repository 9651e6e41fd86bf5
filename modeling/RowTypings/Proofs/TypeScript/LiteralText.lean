import Mathlib.Data.List.Forall2
import RowTypings.Proofs.Json.Keyed
import RowTypings.Proofs.TypeScript.ExpressionReader

/-!
What the text of a literal says. Where every key can be read, the text is one line, and it is read
whole as the expression that the literal is, with its words and tokens, its strings and dates, and
its entries under their keys. The literal of a plain value says the value as it is shown: without
the null fields of objects, and with their other fields under the keys they are called by. Values
that are not shown alike have different literals.
-/

namespace RowTypings

open TypeScript (PropertyKey Literal uniqueKeys)
open TypeScript.Literal (keptNames)

/-! ### Values as they are shown -/

namespace Value

/-- The fields of an object that are not null. -/
def kept (fields : List (String × Value)) : List (String × Value) :=
  fields.filter fun f => !f.2.isNull

mutual

/-- A value without null fields, in which every field is called by its key. -/
def shown : Value → Value
  | .null => .null
  | .bool b => .bool b
  | .number n => .number n
  | .text s => .text s
  | .array items => .array (shownItems items)
  | .object fields =>
    .object (((uniqueKeys (keptNames fields)).map PropertyKey.text).zip (shownKept fields))

def shownItems : List Value → List Value
  | [] => []
  | v :: vs => v.shown :: shownItems vs

def shownKept : List (String × Value) → List Value
  | [] => []
  | (_, v) :: rest => if v.isNull then shownKept rest else v.shown :: shownKept rest

end

theorem shownItems_eq_map (items : List Value) : shownItems items = items.map shown := by
  induction items with
  | nil => rfl
  | cons v vs ih => rw [shownItems, ih, List.map_cons]

theorem shownKept_eq_map (fields : List (String × Value)) :
    shownKept fields = (kept fields).map fun f => f.2.shown := by
  induction fields with
  | nil => rfl
  | cons f fields ih =>
      obtain ⟨name, v⟩ := f
      cases hnull : v.isNull with
      | true => simp [shownKept, kept, hnull, ih]
      | false => simp [shownKept, kept, hnull, ih]

end Value

namespace TypeScript

/-! ### Literals as expressions -/

namespace Expression

mutual

/-- The expression that a literal is; numbers are known by the tokens they are printed as. -/
def ofLiteral : Literal → Expression
  | .null => .null
  | .bool b => .bool b
  | .number n => .number n.write
  | .text s => .text s
  | .date s => .date s
  | .array items => .array (ofItems items)
  | .object entries => .object (ofEntries entries)

def ofItems : List Literal → List Expression
  | [] => []
  | l :: ls => ofLiteral l :: ofItems ls

def ofEntries : List (PropertyKey × Literal) → List (PropertyKey × Expression)
  | [] => []
  | (key, l) :: rest => (key, ofLiteral l) :: ofEntries rest

end

theorem ofItems_eq_map (items : List Literal) : ofItems items = items.map ofLiteral := by
  induction items with
  | nil => rfl
  | cons l ls ih => rw [ofItems, ih, List.map_cons]

theorem ofEntries_eq_map (entries : List (PropertyKey × Literal)) :
    ofEntries entries = entries.map fun e => (e.1, ofLiteral e.2) := by
  induction entries with
  | nil => rfl
  | cons e entries ih => rw [ofEntries, ih, List.map_cons]

theorem ofLiteral_array (items : List Literal) :
    ofLiteral (.array items) = .array (items.map ofLiteral) := by
  rw [ofLiteral, ofItems_eq_map]

theorem ofLiteral_object (entries : List (PropertyKey × Literal)) :
    ofLiteral (.object entries) = .object (entries.map fun e => (e.1, ofLiteral e.2)) := by
  rw [ofLiteral, ofEntries_eq_map]

end Expression

namespace Literal

theorem writeItems_eq_map (literals : List Literal) : writeItems literals = literals.map write := by
  induction literals with
  | nil => rfl
  | cons l ls ih => rw [writeItems, ih, List.map_cons]

theorem writeEntries_eq_map (entries : List (PropertyKey × Literal)) :
    writeEntries entries = entries.map fun e => e.1.write ++ ": " ++ e.2.write := by
  induction entries with
  | nil => rfl
  | cons e entries ih => rw [writeEntries, ih, List.map_cons]

theorem toList_write_date (s : String) : (date s).write.toList =
    ['n', 'e', 'w', ' ', 'D', 'a', 't', 'e', '('] ++ ((quote s).toList ++ [')']) := by
  rw [write, String.toList_append, String.toList_append, List.append_assoc]
  rfl

theorem toList_write_array (items : List Literal) : (array items).write.toList =
    '[' :: ([',', ' '].intercalate (items.map fun l => l.write.toList) ++ [']']) := by
  simp [write, writeItems_eq_map, String.toList_intercalate, Function.comp_def]

def entryText (e : PropertyKey × Literal) : List Char :=
  e.1.write.toList ++ ':' :: ' ' :: e.2.write.toList

theorem map_toList_writeEntries (entries : List (PropertyKey × Literal)) :
    (writeEntries entries).map String.toList = entries.map entryText := by
  rw [writeEntries_eq_map, List.map_map]
  exact List.map_congr_left fun _ _ => by simp [entryText]

theorem toList_write_object (entries : List (PropertyKey × Literal)) :
    (object entries).write.toList =
      if entries = [] then ['{', '}']
      else '{' :: ' ' :: ([',', ' '].intercalate (entries.map entryText) ++ [' ', '}']) := by
  cases entries with
  | nil => rfl
  | cons e entries =>
      rw [write, braced, if_neg (by simp [writeEntries]), if_neg (List.cons_ne_nil _ _),
        ← map_toList_writeEntries]
      simp [String.toList_intercalate]

/-- Every key within the literal can be read. -/
inductive Valid : Literal → Prop
  | null : Valid .null
  | bool (b : Bool) : Valid (.bool b)
  | number (n : Number) : Valid (.number n)
  | text (s : String) : Valid (.text s)
  | date (s : String) : Valid (.date s)
  | array {items : List Literal} (values : ∀ l ∈ items, Valid l) : Valid (.array items)
  | object {entries : List (PropertyKey × Literal)} (keys : ∀ e ∈ entries, e.1.Valid)
      (values : ∀ e ∈ entries, Valid e.2) : Valid (.object entries)

theorem reads_write {l : Literal} (h : l.Valid) :
    Expression.Reads l.write.toList (.ofLiteral l) := by
  induction h with
  | null => exact Expression.reads_word (by decide) rfl
  | bool b =>
      cases b with
      | false => exact Expression.reads_word (by decide) rfl
      | true => exact Expression.reads_word (by decide) rfl
  | number n =>
      have hread := Expression.reads_number n.written_write
      rwa [String.ofList_toList] at hread
  | text s => exact Expression.reads_quote s
  | date s =>
      rw [toList_write_date]
      exact Expression.reads_date s
  | array values ih =>
      rw [toList_write_array, Expression.ofLiteral_array]
      refine Expression.reads_items ?_
      rw [List.forall₂_map_left_iff, List.forall₂_map_right_iff, List.forall₂_same]
      exact ih
  | object keys values ih =>
      rw [toList_write_object, Expression.ofLiteral_object]
      split_ifs with hempty
      · rw [hempty]
        exact Expression.reads_no_entries
      · refine Expression.reads_entries ?_ (by simpa using hempty)
        rw [List.forall₂_map_left_iff, List.forall₂_map_right_iff, List.forall₂_same]
        exact fun e he => ⟨e.2.write.toList, keys e he, ih e he, rfl⟩

theorem oneLine_entryText {e : PropertyKey × Literal} (hkey : e.1.Valid)
    (hvalue : Text.OneLine e.2.write.toList) : Text.OneLine (entryText e) := by
  rw [entryText, Text.oneLine_append, Text.oneLine_cons, Text.oneLine_cons]
  exact ⟨PropertyKey.oneLine_write hkey, by decide, by decide, hvalue⟩

theorem oneLine_write {l : Literal} (h : l.Valid) : Text.OneLine l.write.toList := by
  have hseparator : Text.OneLine [',', ' '] := by decide
  induction h with
  | null => decide
  | bool b => cases b <;> decide
  | number n => exact n.written_write.oneLine
  | text s => exact oneLine_quote s
  | date s =>
      rw [toList_write_date, Text.oneLine_append, Text.oneLine_append]
      exact ⟨by decide, oneLine_quote s, by decide⟩
  | array values ih =>
      have hitems := Text.oneLine_intercalate hseparator (List.forall_mem_map.mpr ih)
      rw [toList_write_array, Text.oneLine_cons, Text.oneLine_append]
      exact ⟨by decide, hitems, by decide⟩
  | object keys values ih =>
      have hentries := Text.oneLine_intercalate hseparator
        (List.forall_mem_map.mpr fun e he => oneLine_entryText (keys e he) (ih e he))
      rw [toList_write_object]
      split_ifs
      · decide
      · rw [Text.oneLine_cons, Text.oneLine_cons, Text.oneLine_append]
        exact ⟨by decide, by decide, hentries, by decide⟩

/-- The text of a literal is read whole as the expression that the literal is. -/
theorem read_write {l : Literal} (h : l.Valid) :
    Expression.read l.write = some (.ofLiteral l) := by
  have hwhole := reads_write h l.write.length [] (Nat.le_of_eq String.length_toList)
    (Text.ends_nil _)
  rw [List.append_nil] at hwhole
  rw [Expression.read, hwhole]

end Literal

/-! ### What expressions say -/

/-- What an expression says. A number is known by its token, a date by its text and a field by the
property it calls. -/
inductive Term where
  | null
  | bool (b : Bool)
  | number (token : String)
  | text (s : String)
  | date (s : String)
  | array (items : List Term)
  | object (entries : List (String × Term))

namespace Expression

mutual

def term : Expression → Term
  | .null => .null
  | .bool b => .bool b
  | .number token => .number token
  | .text s => .text s
  | .date s => .date s
  | .array items => .array (itemTerms items)
  | .object entries => .object (entryTerms entries)

def itemTerms : List Expression → List Term
  | [] => []
  | e :: es => e.term :: itemTerms es

def entryTerms : List (PropertyKey × Expression) → List (String × Term)
  | [] => []
  | (key, e) :: rest => (key.text, e.term) :: entryTerms rest

end

theorem itemTerms_eq_map (items : List Expression) : itemTerms items = items.map term := by
  induction items with
  | nil => rfl
  | cons e es ih => rw [itemTerms, ih, List.map_cons]

theorem entryTerms_eq_map (entries : List (PropertyKey × Expression)) :
    entryTerms entries = entries.map fun e => (e.1.text, e.2.term) := by
  induction entries with
  | nil => rfl
  | cons e entries ih => rw [entryTerms, ih, List.map_cons]

end Expression

namespace Term

/-- What the one expression of a text says. -/
def read (text : String) : Option Term := (Expression.read text).map Expression.term

mutual

/-- What an expression of the value says. -/
def ofValue : Value → Term
  | .null => .null
  | .bool b => .bool b
  | .number n => .number n.write
  | .text s => .text s
  | .array items => .array (ofItems items)
  | .object fields => .object (ofFields fields)

def ofItems : List Value → List Term
  | [] => []
  | v :: vs => ofValue v :: ofItems vs

def ofFields : List (String × Value) → List (String × Term)
  | [] => []
  | (name, v) :: rest => (name, ofValue v) :: ofFields rest

end

theorem ofItems_eq_map (items : List Value) : ofItems items = items.map ofValue := by
  induction items with
  | nil => rfl
  | cons v vs ih => rw [ofItems, ih, List.map_cons]

theorem ofFields_eq_map (fields : List (String × Value)) :
    ofFields fields = fields.map fun f => (f.1, ofValue f.2) := by
  induction fields with
  | nil => rfl
  | cons f fields ih => rw [ofFields, ih, List.map_cons]

end Term

/-! ### Literals of values -/

namespace Literal

theorem ofItems_eq_map (items : List Value) : ofItems items = items.map ofValue := by
  induction items with
  | nil => rfl
  | cons v vs ih => rw [ofItems, ih, List.map_cons]

theorem ofKept_eq_map (fields : List (String × Value)) :
    ofKept fields = (Value.kept fields).map fun f => ofValue f.2 := by
  induction fields with
  | nil => rfl
  | cons f fields ih =>
      obtain ⟨name, v⟩ := f
      cases hnull : v.isNull with
      | true => simp [ofKept, Value.kept, hnull, ih]
      | false => simp [ofKept, Value.kept, hnull, ih]

theorem valid_ofValue (v : Value) : (ofValue v).Valid := by
  induction v using Value.induct with
  | null => exact .null
  | bool b => exact .bool b
  | number n => exact .number n
  | text s => exact .text s
  | array items ih =>
      rw [ofValue, ofItems_eq_map]
      exact .array (List.forall_mem_map.mpr ih)
  | object fields ih =>
      rw [ofValue, ofKept_eq_map]
      refine .object (fun e he => valid_of_mem_uniqueKeys (List.of_mem_zip he).1) fun e he => ?_
      obtain ⟨f, hf, heq⟩ := List.mem_map.mp (List.of_mem_zip he).2
      rw [← heq]
      exact ih f (List.mem_of_mem_filter hf)

theorem term_ofValue (v : Value) :
    (Expression.ofLiteral (ofValue v)).term = Term.ofValue v.shown := by
  induction v using Value.induct with
  | array items ih =>
      rw [ofValue, ofItems_eq_map, Expression.ofLiteral_array, Expression.term,
        Expression.itemTerms_eq_map, Value.shown, Value.shownItems_eq_map, Term.ofValue,
        Term.ofItems_eq_map, List.map_map, List.map_map, List.map_map]
      exact congrArg Term.array (List.map_congr_left ih)
  | object fields ih =>
      rw [ofValue, ofKept_eq_map, Expression.ofLiteral_object, Expression.term,
        Expression.entryTerms_eq_map, Value.shown, Value.shownKept_eq_map, Term.ofValue,
        Term.ofFields_eq_map, List.zip_map_right, List.zip_map, List.map_map, List.map_map,
        List.map_map]
      -- both sides are made from the kept fields with their keys
      refine congrArg Term.object (List.map_congr_left fun e he => ?_)
      have hfield := ih e.2 (List.mem_of_mem_filter (List.of_mem_zip he).2)
      exact congrArg (fun term => (e.1.text, term)) hfield
  | _ => rfl

/-- The literal of a value is one line, is read whole, and says the value as it is shown. So values
that are not shown alike have different literals. -/
theorem read_write_ofValue (v : Value) :
    Text.OneLine (ofValue v).write.toList ∧
      Term.read (ofValue v).write = some (Term.ofValue v.shown) ∧
      ∀ w, (ofValue v).write = (ofValue w).write → Term.ofValue v.shown = Term.ofValue w.shown := by
  have hread (w : Value) : Term.read (ofValue w).write = some (Term.ofValue w.shown) := by
    rw [Term.read, read_write (valid_ofValue w), Option.map_some, term_ofValue]
  refine ⟨oneLine_write (valid_ofValue v), hread v, fun w h => ?_⟩
  have hsame := hread w
  rw [← h, hread v] at hsame
  exact Option.some.inj hsame

/-- A null field and the spelling of a name are not shown. -/
theorem read_write_ofValue_dropped_null :
    let v := Value.object [("a b", .number (.integer 1)), ("n", .null)]
    let w := Value.object [("aB", .number (.integer 1))]
    (ofValue v).write = (ofValue w).write ∧
      Term.ofValue v.shown = .object [("aB", .number "1")] ∧
      Term.ofValue v.shown = Term.ofValue w.shown := by
  intro v w
  have hwrite : (ofValue v).write = (ofValue w).write := by decide +kernel
  have hkeys : uniqueKeys ["a b"] = [⟨"aB", false⟩] := by decide +kernel
  refine ⟨hwrite, ?_, (read_write_ofValue v).2.2 w hwrite⟩
  change Term.object (Term.ofFields (((uniqueKeys ["a b"]).map PropertyKey.text).zip _)) = _
  rw [hkeys]
  rfl

end Literal

end TypeScript

end RowTypings
