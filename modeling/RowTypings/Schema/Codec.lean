import RowTypings.Json.Printer
import RowTypings.Schema.Basic

/-!
The JSON form of a schema: an object from field names to properties, each with its kind, what the
kind carries, the description and the mark of required fields.
-/

namespace RowTypings

def Shape.code : Shape → String
  | scalar => "scalar"
  | array => "array"
  | object => "object"

def Shape.ofCode? : String → Option Shape
  | "scalar" => some scalar
  | "array" => some array
  | "object" => some object
  | _ => none

mutual

/-- The fields that a kind contributes to the object of its property. -/
def Kind.toFields : Kind → List (String × Value)
  | .unknown shape => [("kind", .text "unknown"), ("shape", .text shape.code)]
  | .numeric => [("kind", .text "numeric")]
  | .boolean => [("kind", .text "boolean")]
  | .dateTime => [("kind", .text "dateTime")]
  | .text => [("kind", .text "text")]
  | .object s => [("kind", .text "object"), ("model", .object (Schema.toFields s))]
  | .objectArray s => [("kind", .text "objectArray"), ("model", .object (Schema.toFields s))]

def Schema.toFields : List (String × Described Kind) → List (String × Value)
  | [] => []
  | (name, ⟨kind, description, required⟩) :: rest =>
    (name, .object (kind.toFields ++
      [("description", .text description), ("valueRequired", .bool required)])) ::
      Schema.toFields rest

end

def Property.toValue (p : Property) : Value :=
  .object (p.kind.toFields ++
    [("description", .text p.description), ("valueRequired", .bool p.required)])

def Schema.toValue (s : Schema) : Value := .object (Schema.toFields s)

def Stats.toValue (s : Stats) : Value :=
  .object
    [("rowsSampled", .number (.integer s.rowsSampled)),
      ("fieldsDiscovered", .number (.integer s.fieldsDiscovered)),
      ("unknownFields", .number (.integer s.unknownFields)),
      ("optionalFields", .number (.integer s.optionalFields)),
      ("maxDepth", .number (.integer s.maxDepth))]

/-! ### Reading -/

/-- The kind that the fields of an object describe, given the schema each field holds. This is the
form in which kinds are written. Readers of the format may differ on texts that are never written:
they refuse a tag that is given twice, where here the last one counts, and they take the position of
a kind for its tag, or an object from the name of a shape to null for the shape, which are not taken
here. -/
def Kind.ofFields? (fields : List (String × Value)) (schemas : List (String × Option Schema)) :
    Option Kind := do
  match ← fields.lookup "kind" with
  | .text "unknown" =>
    match ← fields.lookup "shape" with
    | .text code => (Shape.ofCode? code).map .unknown
    | _ => none
  | .text "numeric" => some .numeric
  | .text "boolean" => some .boolean
  | .text "dateTime" => some .dateTime
  | .text "text" => some .text
  | .text "object" => (← schemas.lookup "model").map .object
  | .text "objectArray" => (← schemas.lookup "model").map .objectArray
  | _ => none

def Property.ofFields? (fields : List (String × Value)) (schemas : List (String × Option Schema)) :
    Option Property := do
  let kind ← Kind.ofFields? fields schemas
  match ← fields.lookup "description", ← fields.lookup "valueRequired" with
  | .text description, .bool required => some { kind, description, required }
  | _, _ => none

mutual

/-- The schema that a value describes. -/
def Schema.ofValue? : Value → Option Schema
  | .object fields => Schema.propertiesIn fields
  | _ => none

/-- Every field of an object read as a property. -/
def Schema.propertiesIn : List (String × Value) → Option Schema
  | [] => some []
  | (name, v) :: rest =>
    match Property.ofValue? v, Schema.propertiesIn rest with
    | some p, some s => some ((name, p) :: s)
    | _, _ => none

/-- The property that a value describes. -/
def Property.ofValue? : Value → Option Property
  | .object fields => Property.ofFields? fields (Schema.schemasIn fields)
  | _ => none

/-- The schema that each field of an object describes, if it does. -/
def Schema.schemasIn : List (String × Value) → List (String × Option Schema)
  | [] => []
  | (name, v) :: rest => (name, Schema.ofValue? v) :: Schema.schemasIn rest

end

/-- The kind that a value describes, whatever else it holds. -/
def Kind.ofValue? : Value → Option Kind
  | .object fields => Kind.ofFields? fields (Schema.schemasIn fields)
  | _ => none

end RowTypings
