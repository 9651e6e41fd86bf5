import RowTypings.Schema.Inference
import RowTypings.Text.Echo

/-!
Cells: values that fit the kind of their field. Fitting a raw value to a kind gives a cell, nothing
where there is no value to carry, or a misfit that shows what was found instead.
-/

namespace RowTypings

inductive Cell where
  | number (n : Number)
  | boolean (b : Bool)
  | dateTime (text : String) (instant : Time.Instant)
  | text (s : String)
  | structured (v : Value)

/-- One coerced row: the cells of the fields that have one. -/
abbrev Record := List (String × Cell)

namespace Cell

def label : Cell → String
  | number _ => "number"
  | boolean _ => "boolean"
  | dateTime .. => "date-time"
  | text _ => "text"
  | structured _ => "structured"

/-- The cell that a value makes under a kind. Text may carry any scalar but an object field takes
nothing except an object, and a list field nothing except a list of objects. -/
def fit? : Kind → Value → Option Cell
  | .numeric, .number n => some (.number n)
  | .numeric, .text s => (Number.ofText? s).map .number
  | .boolean, .bool b => some (.boolean b)
  | .boolean, .text s => (booleanOfText? s).map .boolean
  | .dateTime, .text s => (Time.instant? s).map (.dateTime (Text.trim s))
  | .text, .text s => some (.text s)
  | .text, .number n => some (.text n.write)
  | .text, .bool b => some (.text (if b then "true" else "false"))
  | .object _, .object fields => some (.structured (.object fields))
  | .objectArray _, .array items =>
    if items.all Value.isObject then some (.structured (.array items)) else none
  | _, _ => none

/-- A value that does not fit, as it is shown in a message. -/
structure Misfit where
  found : String

/-- Text is echoed. Other scalars are shown where the source has them, everything else by type. -/
def showFound (encoding : Encoding) : Value → String
  | .text s => Text.echo s
  | .number n => if encoding == .structured then n.write else "number"
  | .bool b =>
    if encoding == .structured then (if b then "true" else "false") else "boolean"
  | v => v.typeName

/-- No cell is due for a field of unknown kind, for null, and for blank text in a field that is not
text. -/
def isSilent (kind : Kind) : Value → Bool
  | .null => true
  | .text s =>
    kind.isUnknown ||
      (Text.isBlankText s && match kind with | .text => false | _ => true)
  | _ => kind.isUnknown

def coerce (encoding : Encoding) (kind : Kind) (v : Value) : Except Misfit (Option Cell) :=
  if isSilent kind v then .ok none
  else
    match fit? kind v with
    | some c => .ok (some c)
    | none => .error ⟨showFound encoding v⟩

end Cell

end RowTypings
