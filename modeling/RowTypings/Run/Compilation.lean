import RowTypings.Settings.Basic
import RowTypings.TypeScript.Module
import RowTypings.TypeScript.RecordLiteral

/-!
Compiling one source: the schema of its sampled rows, the members of its interface, and a literal
for every row. Rows are taken as they come: the sample is read off the front, and the rows behind it
are written one by one after the sampled ones. The first row that cannot be had ends the
compilation; what was reported before that stays reported.
-/

namespace RowTypings

open TypeScript

/-- A source that is compiled but not declared. -/
structure Compiled where
  members : List String
  value : ContentExpr
  isList : Bool
  rows : Nat
  stats : Stats

/-- What is reported about one row: first its misfits, then what its literal leaves out. -/
def rowDiagnostics (origin : RowOrigin) (schema : Schema) (index : Nat) (row : Row) :
    List Diagnostic :=
  Record.misfits origin schema row index ++
    recordOmissions schema (Record.ofRow origin.encoding schema row)

def rowLiteral (encoding : Encoding) (schema : Schema) (row : Row) : String :=
  (Literal.ofRecord schema (Record.ofRow encoding schema row)).write

/-- Reads the sample off the front of a sequence of rows: as many as the limit allows, if there is
one. The rows behind them are left as they are. -/
def drawSample (limit? : Option Nat) : Rows → Except SourceError (List Row × Rows)
  | [] => .ok ([], [])
  | item :: rest =>
    if limit? == some 0 then .ok ([], item :: rest)
    else do
      let row ← item
      let (sampled, left) ← drawSample (limit?.map (· - 1)) rest
      return (row :: sampled, left)

/-- The literals of rows that are numbered from `index`, and everything reported about them. -/
def writeRows (origin : RowOrigin) (schema : Schema) (index : Nat) :
    Rows → List Diagnostic × Except SourceError (List String)
  | [] => ([], .ok [])
  | .error e :: _ => ([], .error e)
  | .ok row :: rest =>
    let (later, outcome) := writeRows origin schema (index + 1) rest
    (rowDiagnostics origin schema index row ++ later,
      outcome.map fun literals => rowLiteral origin.encoding schema row :: literals)

/-- A single row may stand for itself. -/
def contentOf (singleRowAsObject : Bool) : List String → ContentExpr × Bool
  | [literal] => if singleRowAsObject then (.one literal, false) else (.rows [literal], true)
  | literals => (.rows literals, true)

/-- Compiles opened rows: the sample is read first, then its rows are written, then the rows left,
then the interface. -/
def compileRows (settings : Settings) (origin : RowOrigin) (rows : Rows) :
    List Diagnostic × Except SourceError Compiled :=
  match drawSample settings.inference.sampleLimit? rows with
  | .error e => ([], .error e)
  | .ok (sampled, left) =>
    let inference : Inference := { settings := settings.inference, encoding := origin.encoding }
    let schema := inference.ofRows sampled
    let first := (sampled.mapIdx (rowDiagnostics origin schema)).flatten
    match writeRows origin schema sampled.length left with
    | (later, .error e) => (first ++ later, .error e)
    | (later, .ok tail) =>
      let literals := sampled.map (rowLiteral origin.encoding schema) ++ tail
      let (value, isList) := contentOf settings.singleRowAsObject literals
      (first ++ later ++ interfaceGaps settings.declarations schema,
        .ok
          { members := interfaceMembers settings.declarations schema
            value
            isList
            rows := literals.length
            stats := schema.stats sampled.length })

/-- Reads and compiles a source. -/
def compileSource (settings : Settings) (t : FileTree) (source : Source) :
    List Diagnostic × Except SourceError Compiled :=
  match source.rows t with
  | .error e => ([], .error e)
  | .ok rows =>
    compileRows settings { identity := source.identity, encoding := source.encoding } rows

end RowTypings
