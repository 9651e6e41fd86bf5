import RowTypings.Decimal.Layout

/-!
Raw values of sample data. An object keeps its fields in arrival order; readers never repeat a
name within one object.
-/

namespace RowTypings

/-- Whole numbers stay whole; every other number is a double. -/
inductive Number where
  | integer (n : Int)
  | float (x : Decimal.Binary64)
  deriving DecidableEq

/-- Doubles are written plainly from `0.00001` up to sixteen whole digits. -/
def Number.plainRange : Decimal.PlainRange := ⟨-5, 15⟩

def Number.write : Number → String
  | .integer n => toString n
  | .float x => x.write Number.plainRange

inductive Value where
  | null
  | bool (b : Bool)
  | number (n : Number)
  | text (s : String)
  | array (items : List Value)
  | object (fields : List (String × Value))
  deriving Inhabited

namespace Value

def isNull : Value → Bool
  | null => true
  | _ => false

def isObject : Value → Bool
  | object _ => true
  | _ => false

def typeName : Value → String
  | null => "null"
  | bool _ => "boolean"
  | number _ => "number"
  | text _ => "string"
  | array _ => "array"
  | object _ => "object"

end Value

/-- One sample row: its fields in the order of the columns or keys it came with. -/
abbrev Row := List (String × Value)

end RowTypings
