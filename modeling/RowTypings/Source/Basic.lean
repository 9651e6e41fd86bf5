import RowTypings.Csv.Records
import RowTypings.Files.FileTree
import RowTypings.Json.Reader
import RowTypings.Naming.Identifier
import RowTypings.Schema.Inference

/-!
Sources of rows: delimited text with a header, JSON documents, rows given directly, and anything
else that can be opened. Opening a source gives its rows in order; a row that cannot be had stands
in its place as an error.
-/

namespace RowTypings

/-- Why what is read does not hold rows. Sources of other kinds say so in their own words. -/
inductive StructureFault where
  | missingHeader
  | notAnArray (found : String)
  | notAnObject (row : Nat) (found : String)
  | other (message : String)

inductive SourceError where
  | notFound (path : String)
  | unreadable (path : String) (cause : FileError)
  | unevenRecord (origin : String) (mismatch : Csv.LengthMismatch)
  | badJson (origin : String) (cause : Json.Cause) (place : Json.Place)
  | badStructure (origin : String) (fault : StructureFault)

def StructureFault.message : StructureFault → String
  | missingHeader => "missing header row"
  | notAnArray found => s!"expected array, found {found}"
  | notAnObject row found => s!"row {row} is {found}, expected an object"
  | other message => message

def SourceError.message : SourceError → String
  | notFound path => s!"Source not found: {path}"
  | unreadable path cause => s!"IO error reading {path}: {cause.message}"
  | unevenRecord origin mismatch => s!"CSV error in {origin}: {mismatch.message}"
  | badJson origin cause place => s!"JSON error in {origin}: {Json.faultMessage cause place}"
  | badStructure origin fault => s!"Invalid structure in {origin}: {fault.message}"

/-- Where a text comes from. -/
inductive Origin where
  | file (path : String)
  | inline (identity text : String)

/-- Rows in order, with errors in the places of the rows that cannot be had. -/
abbrev Rows := List (Except SourceError Row)

/-- What rows are read from. An input of a kind not known here is all that a reader asks of it: the
name it goes by, how it carries values, and what opening it gives. -/
inductive RowInput where
  | delimited (origin : Origin) (delimiter : Char)
  | json (origin : Origin)
  | rows (identity : String) (encoding : Encoding) (rows : List Row)
  | other (identity : String) (encoding : Encoding) (opened : FileTree → Except SourceError Rows)

/-- One input with the names its declarations are to have, where they are not derived. -/
structure Source where
  input : RowInput
  moduleName? : Option String := none
  interfaceName? : Option String := none
  constantName? : Option String := none

namespace Origin

/-- The name an origin goes by in messages and declarations. -/
def identity : Origin → String
  | file path => Path.shownName path
  | inline identity _ => identity

/-- A byte order mark at the very start is no part of the text. -/
def withoutMark (text : String) : String :=
  match text.toList with
  | '\uFEFF' :: rest => String.ofList rest
  | _ => text

def readText (t : FileTree) : Origin → Except SourceError String
  | inline _ text => .ok (withoutMark text)
  | file path =>
    match t.readText path with
    | .ok text => .ok (withoutMark text)
    | .error .notFound => .error (.notFound path)
    | .error cause => .error (.unreadable path cause)

end Origin

/-! ### Delimited text -/

/-- The cells of a record under the names of the header; of two columns with one name the first
gives the place and the last the value. -/
def recordRow (header : List String) (cells : List String) : Row :=
  Fields.ofList ((header.zip cells).map fun (name, cell) => (name, .text cell))

/-- The row of a record, if it has as many cells as the header has names. -/
def recordItem (identity : String) (header : List String) (r : Csv.Record) :
    Except SourceError Row :=
  if r.fields.length == header.length then .ok (recordRow header r.fields)
  else .error (.unevenRecord identity ⟨r.number, r.place, r.fields.length, header.length⟩)

def delimitedRows (identity : String) (delimiter : Char) (text : String) :
    Except SourceError Rows :=
  match Csv.records delimiter text with
  | [] => .error (.badStructure identity .missingHeader)
  | first :: later => .ok (later.map (recordItem identity (first.fields.map Text.trim)))

/-! ### JSON -/

/-- The values of a document: the items of a list, or all values one after the other. -/
def documentValues (identity body : String) : Except SourceError (List Value) :=
  let corrupt (fault : Json.Fault) := SourceError.badJson identity fault.cause (fault.place body)
  if body.toList.head? == some '[' then
    match Json.read body with
    | .ok (.array items) => .ok items
    | .ok v => .error (.badStructure identity (.notAnArray v.typeName))
    | .error fault => .error (corrupt fault)
  else (Json.readStream body).mapError corrupt

def valueRow (identity : String) (index : Nat) : Value → Except SourceError Row
  | .object fields => .ok fields
  | v => .error (.badStructure identity (.notAnObject index v.typeName))

def jsonRows (identity : String) (text : String) : Except SourceError Rows := do
  let values ← documentValues identity (String.ofList (Text.trimLeft text.toList))
  return values.mapIdx (valueRow identity)

/-! ### Sources -/

namespace RowInput

def identity : RowInput → String
  | delimited origin _ => origin.identity
  | json origin => origin.identity
  | rows identity _ _ => identity
  | other identity _ _ => identity

def encoding : RowInput → Encoding
  | delimited _ _ => .textual
  | json _ => .structured
  | rows _ encoding _ => encoding
  | other _ encoding _ => encoding

def read (t : FileTree) : RowInput → Except SourceError Rows
  | delimited origin delimiter => do delimitedRows origin.identity delimiter (← origin.readText t)
  | json origin => do jsonRows origin.identity (← origin.readText t)
  | .rows _ _ given => .ok (given.map .ok)
  | other _ _ opened => opened t

end RowInput

namespace Source

def identity (s : Source) : String := s.input.identity

def encoding (s : Source) : Encoding := s.input.encoding

def rows (t : FileTree) (s : Source) : Except SourceError Rows := s.input.read t

def moduleName (s : Source) : String := s.moduleName?.getD s.identity

def interfaceName (s : Source) : String :=
  s.interfaceName?.getD (Naming.interfaceName s.identity)

def constantName (s : Source) : String := s.constantName?.getD (Naming.constantName s.identity)

end Source

end RowTypings
