import RowTypings.TypeScript.PropertyKey

/-!
Value expressions on one line. Null fields of an object are left out; the other fields are called
by their unique keys.
-/

namespace RowTypings.TypeScript

inductive Literal where
  | null
  | bool (b : Bool)
  | number (n : Number)
  | text (s : String)
  | date (s : String)
  | array (items : List Literal)
  | object (entries : List (PropertyKey × Literal))

/-- Entries between braces, with a space at each end unless there are none. -/
def braced (entries : List String) : String :=
  if entries.isEmpty then "\x7b\x7d" else "\x7b " ++ ", ".intercalate entries ++ " \x7d"

namespace Literal

mutual

def write : Literal → String
  | .null => "null"
  | .bool b => if b then "true" else "false"
  | .number n => n.write
  | .text s => quote s
  | .date s => "new Date(" ++ quote s ++ ")"
  | .array items => "[" ++ ", ".intercalate (writeItems items) ++ "]"
  | .object entries => braced (writeEntries entries)

def writeItems : List Literal → List String
  | [] => []
  | l :: ls => write l :: writeItems ls

def writeEntries : List (PropertyKey × Literal) → List String
  | [] => []
  | (key, l) :: rest => (key.write ++ ": " ++ write l) :: writeEntries rest

end

/-- The names of the fields that an object literal keeps. -/
def keptNames (fields : List (String × Value)) : List String :=
  (fields.filter fun f => !f.2.isNull).map Prod.fst

mutual

def ofValue : Value → Literal
  | .null => .null
  | .bool b => .bool b
  | .number n => .number n
  | .text s => .text s
  | .array items => .array (ofItems items)
  | .object fields => .object ((uniqueKeys (keptNames fields)).zip (ofKept fields))

def ofItems : List Value → List Literal
  | [] => []
  | v :: vs => ofValue v :: ofItems vs

/-- The literals of the fields that an object literal keeps. -/
def ofKept : List (String × Value) → List Literal
  | [] => []
  | (_, v) :: rest => if v.isNull then ofKept rest else ofValue v :: ofKept rest

end

end Literal

end RowTypings.TypeScript
