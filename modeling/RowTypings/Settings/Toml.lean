import RowTypings.Settings.Codec
import RowTypings.Toml.Document

/-!
Settings in a TOML document. Every setting that is missing has its default, and names that mean
nothing are passed over; a setting of the wrong type spoils the document.
-/

namespace RowTypings

namespace Toml.Node

def text? : Node → Option String
  | .text s => some s
  | _ => none

def boolean? : Node → Option Bool
  | .boolean b => some b
  | _ => none

/-- A whole number that is not negative. -/
def count? : Node → Option Nat
  | .integer n => if 0 ≤ n then some n.toNat else none
  | _ => none

def character? : Node → Option Char
  | .text s =>
    match s.toList with
    | [c] => some c
    | _ => none
  | _ => none

def hasNothing : Node → Bool
  | .list vs => vs.isEmpty
  | .table _ fields => fields.isEmpty
  | .tables ts => ts.isEmpty
  | _ => false

/-- One of some choices: its code as text, or as the name of the only field of a table, which then
has nothing in it. -/
def choice? {α : Type} (ofCode? : String → Option α) : Node → Option α
  | .text s => ofCode? s
  | .table _ [(name, v)] => if v.hasNothing then ofCode? name else none
  | _ => none

def list? : Node → Option (List Node)
  | .list vs => some vs
  | .tables ts => some (ts.map (.table .header))
  | _ => none

/-- The fields of a record: those of a table, or the items of a list under the given names in turn.
A timestamp counts as a table without any of the names. -/
def record? (names : List String) : Node → Option Table
  | .table _ fields => some fields
  | .timestamp _ => some []
  | v => v.list?.map names.zip

end Toml.Node

open Toml

/-- The setting of a name, or a default if there is none. -/
def Toml.Table.setting {α : Type} (t : Table) (name : String) (decode : Node → Option α)
    (default : α) : Option α :=
  match t.lookup name with
  | some v => decode v
  | none => some default

/-- A setting that may be absent. -/
def Toml.Table.setting? {α : Type} (t : Table) (name : String) (decode : Node → Option α) :
    Option (Option α) :=
  t.setting name (fun v => (decode v).map some) none

def InferenceSettings.ofNode? (v : Node) : Option InferenceSettings := do
  let t ← v.record? ["sampleSize", "refineRequired", "detectDates", "maxDepth"]
  let d : InferenceSettings := {}
  return {
    sampleSize := ← t.setting "sampleSize" Node.count? d.sampleSize
    refineRequired := ← t.setting "refineRequired" Node.boolean? d.refineRequired
    detectDates := ← t.setting "detectDates" Node.boolean? d.detectDates
    maxDepth := ← t.setting "maxDepth" Node.count? d.maxDepth }

def TypeScript.DeclarationSettings.ofNode? (v : Node) : Option DeclarationSettings := do
  let t ← v.record? ["readonly", "indent", "maxDepth"]
  let d : DeclarationSettings := {}
  return {
    readonly := ← t.setting "readonly" Node.boolean? d.readonly
    indent := ← t.setting "indent" Node.text? d.indent
    maxDepth := ← t.setting "maxDepth" Node.count? d.maxDepth }

/-- A listed source; only its path is necessary. -/
def SourceEntry.ofNode? (v : Node) : Option SourceEntry := do
  let t ← v.record? ["path", "format", "moduleName", "interfaceName", "constantName", "delimiter"]
  return {
    path := ← (t.lookup "path").bind Node.text?
    format? := ← t.setting? "format" (Node.choice? SourceFormat.ofCode?)
    moduleName? := ← t.setting? "moduleName" Node.text?
    interfaceName? := ← t.setting? "interfaceName" Node.text?
    constantName? := ← t.setting? "constantName" Node.text?
    delimiter? := ← t.setting? "delimiter" Node.character? }

def sourceEntriesOf? (v : Node) : Option (List SourceEntry) :=
  v.list?.bind fun vs => vs.mapM SourceEntry.ofNode?

namespace Settings

def ofTable? (t : Table) : Option Settings := do
  let d : Settings := {}
  return {
    layout := ← t.setting "layout" (Node.choice? ModuleLayout.ofCode?) d.layout
    moduleName := ← t.setting "moduleName" Node.text? d.moduleName
    interfaceName? := ← t.setting? "interfaceName" Node.text?
    constantName? := ← t.setting? "constantName" Node.text?
    singleRowAsObject := ← t.setting "singleRowAsObject" Node.boolean? d.singleRowAsObject
    emitMode := ← t.setting "emitMode" (Node.choice? EmitMode.ofCode?) d.emitMode
    inference := ← t.setting "inference" InferenceSettings.ofNode? d.inference
    declarations :=
      ← t.setting "declarations" TypeScript.DeclarationSettings.ofNode? d.declarations
    sources := ← t.setting "sources" sourceEntriesOf? d.sources }

/-- The settings in a text. -/
def ofText (text : String) : Except SettingsError Settings :=
  match (Toml.read text).bind ofTable? with
  | some s => .ok s
  | none => .error .badToml

/-- The settings in a file, whose directory relative paths start from. -/
def ofFile (t : FileTree) (path : String) : Except SettingsError Settings := do
  match t.readText path with
  | .ok text => return (← ofText text).rebase path
  | .error cause => .error (.unreadable path cause)

end Settings

end RowTypings
