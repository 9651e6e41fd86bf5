import RowTypings.Diagnostic
import RowTypings.Record.Cell

/-!
Coercing a row against a schema. Every field of the schema that the row holds is coerced on its
own: the cells form the record, the misfits are reported, and the row itself is never dropped.
-/

namespace RowTypings

/-- Where the rows being coerced come from. -/
structure RowOrigin where
  identity : String
  encoding : Encoding

/-- The outcome for every field of the schema that the row holds, in the order of the schema. -/
def coerceFields (encoding : Encoding) (schema : Schema) (row : Row) :
    List (String × Kind × Except Cell.Misfit (Option Cell)) :=
  schema.filterMap fun (name, p) =>
    (row.lookup name).map fun v => (name, p.kind, Cell.coerce encoding p.kind v)

def Record.ofRow (encoding : Encoding) (schema : Schema) (row : Row) : Record :=
  (coerceFields encoding schema row).filterMap fun (name, _, outcome) =>
    match outcome with
    | .ok (some c) => some (name, c)
    | _ => none

/-- The misfits of the row with the given index. -/
def Record.misfits (origin : RowOrigin) (schema : Schema) (row : Row) (index : Nat) :
    List Diagnostic :=
  (coerceFields origin.encoding schema row).filterMap fun (name, kind, outcome) =>
    match outcome with
    | .error misfit =>
      some (.coercion origin.identity index name kind.label misfit.found)
    | .ok _ => none

end RowTypings
