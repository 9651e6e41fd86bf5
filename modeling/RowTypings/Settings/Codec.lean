import RowTypings.Json.Printer
import RowTypings.Settings.Basic

/-!
The JSON form of settings: an object with every setting under its name. A setting that may be absent
is left out where it is.
-/

namespace RowTypings

def ModuleLayout.code : ModuleLayout → String
  | separate => "separate"
  | combined => "combined"

def ModuleLayout.ofCode? : String → Option ModuleLayout
  | "separate" => some separate
  | "combined" => some combined
  | _ => none

def SourceFormat.code : SourceFormat → String
  | csv => "csv"
  | json => "json"

def SourceFormat.ofCode? : String → Option SourceFormat
  | "csv" => some csv
  | "json" => some json
  | _ => none

def EmitMode.code : EmitMode → String
  | append => "append"
  | replace => "replace"

def EmitMode.ofCode? : String → Option EmitMode
  | "append" => some append
  | "replace" => some replace
  | _ => none

/-- The field of a text that may be absent. -/
def optionalText (name : String) (text? : Option String) : List (String × Value) :=
  text?.toList.map fun s => (name, .text s)

def SourceEntry.toValue (e : SourceEntry) : Value :=
  .object
    ([("path", .text e.path)] ++ optionalText "format" (e.format?.map SourceFormat.code) ++
      optionalText "moduleName" e.moduleName? ++ optionalText "interfaceName" e.interfaceName? ++
      optionalText "constantName" e.constantName? ++
      optionalText "delimiter" (e.delimiter?.map fun c => String.ofList [c]))

def InferenceSettings.toValue (s : InferenceSettings) : Value :=
  .object
    [("sampleSize", .number (.integer s.sampleSize)), ("refineRequired", .bool s.refineRequired),
      ("detectDates", .bool s.detectDates), ("maxDepth", .number (.integer s.maxDepth))]

def TypeScript.DeclarationSettings.toValue (s : TypeScript.DeclarationSettings) : Value :=
  .object
    [("readonly", .bool s.readonly), ("indent", .text s.indent),
      ("maxDepth", .number (.integer s.maxDepth))]

def Settings.toValue (s : Settings) : Value :=
  .object
    ([("layout", .text s.layout.code), ("moduleName", .text s.moduleName)] ++
      optionalText "interfaceName" s.interfaceName? ++
      optionalText "constantName" s.constantName? ++
      [("singleRowAsObject", .bool s.singleRowAsObject), ("emitMode", .text s.emitMode.code),
        ("inference", s.inference.toValue), ("declarations", s.declarations.toValue),
        ("sources", .array (s.sources.map SourceEntry.toValue))])

end RowTypings
