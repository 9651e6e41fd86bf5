/-!
Ordered fields: a list of named entries in which the first insertion of a name fixes its place and
the last one its value.
-/

namespace RowTypings.Fields

def get? {α : Type} (fields : List (String × α)) (name : String) : Option α :=
  fields.lookup name

/-- Replaces the entry of that name where it stands, or adds one at the end. -/
def put {α : Type} (fields : List (String × α)) (name : String) (value : α) : List (String × α) :=
  match fields with
  | [] => [(name, value)]
  | (n, v) :: rest => if n == name then (n, value) :: rest else (n, v) :: put rest name value

def ofList {α : Type} (entries : List (String × α)) : List (String × α) :=
  entries.foldl (fun fields e => put fields e.1 e.2) []

def names {α : Type} (fields : List (String × α)) : List String :=
  fields.map Prod.fst

end RowTypings.Fields
