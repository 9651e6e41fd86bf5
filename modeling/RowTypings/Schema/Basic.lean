/-!
Schemas of sample rows. A schema lists the fields of one source in the order they were first seen;
each has a kind, a description, and a mark for fields that always hold a value. Objects and lists
of objects carry a schema of their own.
-/

namespace RowTypings

/-- What is known of a field whose kind could not be told. -/
inductive Shape where
  | scalar
  | array
  | object
  deriving DecidableEq

/-- The description of one field, with its kind in `α`. -/
structure Described (α : Type) where
  kind : α
  description : String
  required : Bool

inductive Kind where
  | unknown (shape : Shape)
  | numeric
  | boolean
  | dateTime
  | text
  | object (fields : List (String × Described Kind))
  | objectArray (fields : List (String × Described Kind))

abbrev Property := Described Kind

abbrev Schema := List (String × Property)

namespace Kind

def label : Kind → String
  | unknown _ => "unknown"
  | numeric => "numeric"
  | boolean => "boolean"
  | dateTime => "date-time"
  | text => "text"
  | object _ => "object"
  | objectArray _ => "object array"

def isUnknown : Kind → Bool
  | unknown _ => true
  | _ => false

/-- The schema inside an object or a list of objects. -/
def nested? : Kind → Option Schema
  | object s => some s
  | objectArray s => some s
  | _ => none

end Kind

/-- The first description of a field: it is required as soon as its kind is known. -/
def Property.ofKind (kind : Kind) (description : String) : Property :=
  { kind, description, required := !kind.isUnknown }

def Property.optional (p : Property) : Property := { p with required := false }

namespace Schema

def names (s : Schema) : List String := s.map Prod.fst

def get? (s : Schema) (name : String) : Option Property := s.lookup name

def position? (s : Schema) (name : String) : Option Nat := s.names.idxOf? name

end Schema

/-! ### Counting -/

mutual

def Kind.typedFieldCount : Kind → Nat
  | .unknown _ => 0
  | .object s => 1 + Schema.typedFieldCount s
  | .objectArray s => 1 + Schema.typedFieldCount s
  | .numeric => 1
  | .boolean => 1
  | .dateTime => 1
  | .text => 1

/-- The fields of known kind, nested ones included. -/
def Schema.typedFieldCount : List (String × Described Kind) → Nat
  | [] => 0
  | (_, ⟨kind, _, _⟩) :: rest => kind.typedFieldCount + Schema.typedFieldCount rest

end

/-- Counts over all levels of a schema. -/
structure Stats where
  rowsSampled : Nat := 0
  fieldsDiscovered : Nat := 0
  unknownFields : Nat := 0
  optionalFields : Nat := 0
  maxDepth : Nat := 0
  deriving DecidableEq

/-- The counts of two parts taken together. -/
def Stats.merge (a b : Stats) : Stats where
  rowsSampled := a.rowsSampled + b.rowsSampled
  fieldsDiscovered := a.fieldsDiscovered + b.fieldsDiscovered
  unknownFields := a.unknownFields + b.unknownFields
  optionalFields := a.optionalFields + b.optionalFields
  maxDepth := max a.maxDepth b.maxDepth

mutual

/-- The counts of what lies inside a field of this kind, itself at `depth`. -/
def Kind.nestedStats (depth : Nat) : Kind → Stats
  | .object s => Schema.fieldStats (depth + 1) s
  | .objectArray s => Schema.fieldStats (depth + 1) s
  | .unknown _ => {}
  | .numeric => {}
  | .boolean => {}
  | .dateTime => {}
  | .text => {}

/-- The counts of a schema whose fields lie at `depth`. -/
def Schema.fieldStats (depth : Nat) : List (String × Described Kind) → Stats
  | [] => { maxDepth := depth }
  | (_, ⟨kind, _, required⟩) :: rest =>
    let own : Stats :=
      { fieldsDiscovered := 1
        unknownFields := if kind.isUnknown then 1 else 0
        optionalFields := if required then 0 else 1 }
    (own.merge (kind.nestedStats depth)).merge (Schema.fieldStats depth rest)

end

def Schema.stats (s : Schema) (rowsSampled : Nat) : Stats :=
  { Schema.fieldStats 0 s with rowsSampled }

end RowTypings
