import RowTypings.Json.FromText
import RowTypings.Schema.Basic
import RowTypings.Time.Stamp

/-!
Inferring a schema from sample rows. The first row gives every field its kind; where refinement is
on, later rows take away marks of required fields, give a kind to fields that had none, and add
fields at the end.
-/

namespace RowTypings

/-- How a source carries its scalars. -/
inductive Encoding where
  | textual
  | structured
  deriving DecidableEq

structure InferenceSettings where
  sampleSize : Nat := 1
  refineRequired : Bool := false
  detectDates : Bool := true
  maxDepth : Nat := 10
  deriving DecidableEq

/-- The leading rows that inference looks at. A sample size of zero stands for all rows, and
without refinement the first row is the only one. -/
def InferenceSettings.sample {α : Type} (settings : InferenceSettings) (rows : List α) : List α :=
  if !settings.refineRequired then rows.take 1
  else if settings.sampleSize == 0 then rows
  else rows.take settings.sampleSize

/-- The most rows that inference looks at, if there is a limit. -/
def InferenceSettings.sampleLimit? (settings : InferenceSettings) : Option Nat :=
  if !settings.refineRequired then some 1
  else if settings.sampleSize == 0 then none
  else some settings.sampleSize

/-- Everything that inference depends on besides the rows. -/
structure Inference where
  settings : InferenceSettings := {}
  encoding : Encoding

namespace Inference

def kindOfText (i : Inference) (s : String) : Kind :=
  if Text.isBlankText s then .unknown .scalar
  else if i.encoding == .textual && (Number.ofText? s).isSome then .numeric
  else if i.encoding == .textual && (booleanOfText? s).isSome then .boolean
  else if i.settings.detectDates && (Time.layout? s).isSome then .dateTime
  else .text

mutual

/-- The kind of a value found at `depth`. Objects and lists of objects are looked into only above
the depth limit; a list is judged by its first item. -/
def kindOf (i : Inference) (depth : Nat) : Value → Kind
  | .null => .unknown .scalar
  | .bool _ => .boolean
  | .number _ => .numeric
  | .text s => i.kindOfText s
  | .object fields =>
    if fields.isEmpty || i.settings.maxDepth ≤ depth then .unknown .object
    else .object (propertiesOf i (depth + 1) fields)
  | .array items => kindOfItems i depth items

def kindOfItems (i : Inference) (depth : Nat) : List Value → Kind
  | .object fields :: _ =>
    if fields.isEmpty || i.settings.maxDepth ≤ depth then .unknown .array
    else .objectArray (propertiesOf i (depth + 1) fields)
  | _ => .unknown .array

/-- The first description of every field found at `depth`. -/
def propertiesOf (i : Inference) (depth : Nat) : List (String × Value) → Schema
  | [] => []
  | (name, v) :: rest =>
    (name, Property.ofKind (kindOf i depth v) name) :: propertiesOf i depth rest

end

/-- The description of one field of a row. -/
def classify (i : Inference) (name : String) (v : Value) : Property :=
  Property.ofKind (i.kindOf 0 v) name

def ofRow (i : Inference) (row : Row) : Schema := i.propertiesOf 0 row

/-! ### Refinement -/

/-- A value that says nothing: null, or text of white space alone. -/
def isAbsent : Value → Bool
  | .null => true
  | .text s => Text.isBlankText s
  | _ => false

/-- Marks the fields that a row does not have. -/
def withoutMissing (row : Row) (s : Schema) : Schema :=
  s.map fun (name, p) => (name, if (row.lookup name).isSome then p else p.optional)

/-- Gives the field of that name what `refine` makes of it, or adds a field at the end. -/
def updateField (name : String) (refine : Property → Property) (added : Property) :
    Schema → Schema
  | [] => [(name, added)]
  | (n, p) :: rest =>
    if n == name then (n, refine p) :: rest
    else (n, p) :: updateField name refine added rest

/-- A field that had no kind takes the kind of a later value, and stays optional. -/
def typedLate (p : Property) (kind : Kind) : Property :=
  if kind.isUnknown then p else { p with kind }

mutual

/-- What a later value of a field says about it. -/
def refineProperty (i : Inference) (depth : Nat) : Value → Property → Property
  | .object fields, p =>
    match p.kind with
    | .unknown _ => typedLate p (i.kindOf depth (.object fields))
    | .object s =>
      { p with kind := .object (refineFields i (depth + 1) fields (withoutMissing fields s)) }
    | _ => p
  | .array items, p =>
    match p.kind with
    | .unknown _ => typedLate p (i.kindOf depth (.array items))
    | .objectArray s => { p with kind := .objectArray (refineItems i (depth + 1) items s) }
    | _ => p
  | .null, p => p.optional
  | .text s, p =>
    if Text.isBlankText s then p.optional
    else if p.kind.isUnknown then typedLate p (i.kindOf depth (.text s))
    else p
  | .bool b, p => if p.kind.isUnknown then typedLate p (i.kindOf depth (.bool b)) else p
  | .number n, p => if p.kind.isUnknown then typedLate p (i.kindOf depth (.number n)) else p

/-- Every object of a list refines the schema of the list's objects in turn. -/
def refineItems (i : Inference) (depth : Nat) : List Value → Schema → Schema
  | [], s => s
  | .object fields :: rest, s =>
    refineItems i depth rest (refineFields i depth fields (withoutMissing fields s))
  | _ :: rest, s => refineItems i depth rest s

/-- Goes through the fields of an object: known ones are refined, new ones are added as optional. -/
def refineFields (i : Inference) (depth : Nat) : List (String × Value) → Schema → Schema
  | [], s => s
  | (name, v) :: rest, s =>
    let added := (Property.ofKind (i.kindOf depth v) name).optional
    refineFields i depth rest (updateField name (refineProperty i depth v) added s)

end

/-- Folds a later row into the schema. -/
def refine (i : Inference) (s : Schema) (row : Row) : Schema :=
  i.refineFields 0 row (withoutMissing row s)

/-- The schema of a list of rows. -/
def ofRows (i : Inference) (rows : List Row) : Schema :=
  match i.settings.sample rows with
  | [] => []
  | first :: later => later.foldl i.refine (i.ofRow first)

end Inference

end RowTypings
