import RowTypings.Record.Coercion
import RowTypings.TypeScript.Literal

/-!
Literals of records. A record is written in the order of its schema and under the keys of the
interface; nested values follow the nested schemas, and what those do not declare is left out and
reported.
-/

namespace RowTypings.TypeScript

/-- The fields of a schema with the keys the interface gives them. -/
abbrev KeyTable := List (String × PropertyKey × Kind)

def keyTable (s : Schema) : KeyTable :=
  s.zipWith (fun f key => (f.1, key, f.2.kind)) (uniqueKeys s.names)

/-! ### Nested values -/

mutual

/-- A value written after the kind of its field. -/
def Literal.ofModelled (kind : Kind) : Value → Literal
  | .object fields =>
    match kind with
    | .object s => .object (modelledEntries (keyTable s) fields)
    | _ => .ofValue (.object fields)
  | .array items =>
    match kind with
    | .objectArray s => .array (modelledItems (keyTable s) items)
    | _ => .ofValue (.array items)
  | .text t =>
    match kind with
    | .dateTime => if (Time.instant? t).isSome then .date (Text.trim t) else .text t
    | _ => .text t
  | .null => .null
  | .bool b => .bool b
  | .number n => .number n

/-- The items of a list of objects; an item that is no object is written as it is. -/
def modelledItems (table : KeyTable) : List Value → List Literal
  | [] => []
  | .object fields :: rest => .object (modelledEntries table fields) :: modelledItems table rest
  | v :: rest => .ofValue v :: modelledItems table rest

/-- The entries of an object, in the object's own order. -/
def modelledEntries (table : KeyTable) : List (String × Value) → List (PropertyKey × Literal)
  | [] => []
  | (name, v) :: rest =>
    if v.isNull then modelledEntries table rest
    else
      match table.lookup name with
      | some (key, kind) => (key, Literal.ofModelled kind v) :: modelledEntries table rest
      | none => modelledEntries table rest

end

mutual

/-- What is left out of a value written after the kind of its field, called by its path. -/
def modelledOmissions (path : String) (kind : Kind) : Value → List Diagnostic
  | .object fields =>
    match kind with
    | .object s => entryOmissions path (keyTable s) fields
    | _ => []
  | .array items =>
    match kind with
    | .objectArray s => itemOmissions path (keyTable s) items
    | _ => []
  | .text _ => []
  | .null => []
  | .bool _ => []
  | .number _ => []

def itemOmissions (path : String) (table : KeyTable) : List Value → List Diagnostic
  | [] => []
  | .object fields :: rest => entryOmissions path table fields ++ itemOmissions path table rest
  | _ :: rest => itemOmissions path table rest

def entryOmissions (path : String) (table : KeyTable) : List (String × Value) → List Diagnostic
  | [] => []
  | (name, v) :: rest =>
    if v.isNull then entryOmissions path table rest
    else
      match table.lookup name with
      | some (_, kind) =>
        modelledOmissions (path ++ "." ++ name) kind v ++ entryOmissions path table rest
      | none => .contentOmitted (path ++ "." ++ name) .undeclared :: entryOmissions path table rest

end

/-! ### Records -/

/-- The literal of a cell, if the cell is of the kind of its field. -/
def cellLiteral? : Kind → Cell → Option Literal
  | .numeric, .number n => some (.number n)
  | .boolean, .boolean b => some (.bool b)
  | .dateTime, .dateTime t _ => some (.date t)
  | .text, .text s => some (.text s)
  | .object s, .structured v => some (.ofModelled (.object s) v)
  | .objectArray s, .structured v => some (.ofModelled (.objectArray s) v)
  | _, _ => none

/-- What is left out of the literal of a cell of the field of that name. -/
def cellOmissions (name : String) : Kind → Cell → List Diagnostic
  | .unknown _, _ => []
  | .numeric, .number _ => []
  | .boolean, .boolean _ => []
  | .dateTime, .dateTime _ _ => []
  | .text, .text _ => []
  | .object s, .structured v => modelledOmissions name (.object s) v
  | .objectArray s, .structured v => modelledOmissions name (.objectArray s) v
  | kind, cell => [.contentOmitted name (.mismatch cell.label kind.label)]

/-- The entry of one field, if the record has a cell for it. -/
def entryOf (record : Record) (name : String) (key : PropertyKey) (kind : Kind) :
    Option (PropertyKey × Literal) :=
  ((record.lookup name).bind (cellLiteral? kind)).map fun l => (key, l)

def Literal.ofRecord (s : Schema) (record : Record) : Literal :=
  .object ((keyTable s).filterMap fun (name, key, kind) => entryOf record name key kind)

def recordOmissions (s : Schema) (record : Record) : List Diagnostic :=
  s.flatMap fun (name, p) =>
    match record.lookup name with
    | some cell => cellOmissions name p.kind cell
    | none => []

/-- The entry of one field on its own, called as if it had no siblings. -/
def singleEntryText (record : Record) (name : String) (p : Property) : Option String :=
  (entryOf record name (.ofName name) p.kind).map fun (key, l) => key.write ++ ": " ++ l.write

end RowTypings.TypeScript
