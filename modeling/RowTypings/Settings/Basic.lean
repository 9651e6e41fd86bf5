import RowTypings.Sink.Basic
import RowTypings.Source.Basic
import RowTypings.Text.Echo
import RowTypings.TypeScript.Interface

/-!
Settings of a run: which sources to read, how to lay out the modules, and the options of inference
and declarations.
-/

namespace RowTypings

/-- How sources are grouped into modules: one for each, or one for all. -/
inductive ModuleLayout where
  | separate
  | combined
  deriving DecidableEq

inductive SourceFormat where
  | csv
  | json
  deriving DecidableEq

/-- One source as it is listed in settings. -/
structure SourceEntry where
  path : String
  format? : Option SourceFormat := none
  moduleName? : Option String := none
  interfaceName? : Option String := none
  constantName? : Option String := none
  delimiter? : Option Char := none

structure Settings where
  layout : ModuleLayout := .separate
  moduleName : String := "content"
  interfaceName? : Option String := none
  constantName? : Option String := none
  singleRowAsObject : Bool := true
  emitMode : EmitMode := .replace
  inference : InferenceSettings := {}
  declarations : TypeScript.DeclarationSettings := {}
  sources : List SourceEntry := []

inductive SettingsError where
  | unreadable (path : String) (cause : FileError)
  | badToml
  | unknownFormat (path : String)
  | delimiterNotAscii (delimiter : Char) (path : String)
  | noSources
  | noModuleName

def SettingsError.message : SettingsError → String
  | unreadable path cause => s!"Failed to read {path}: {cause.message}"
  | badToml => "Invalid TOML: the document does not describe a run"
  | unknownFormat path =>
    s!"Invalid configuration: cannot tell the format of {path}; set `format`"
  | delimiterNotAscii delimiter path =>
    s!"Invalid configuration: delimiter {Text.echoOne delimiter} for {path} is not ASCII"
  | noSources => "Invalid configuration: no sources configured"
  | noModuleName => "Invalid configuration: combined layout needs a module name"

/-- The error as the reason why a run did not start. -/
def SettingsError.runMessage (e : SettingsError) : String := s!"Configuration error: {e.message}"

/-- The same for the one who started the run. -/
def SettingsError.userMessage (e : SettingsError) : String :=
  e.runMessage ++ "\n\nHint: Check your fixturegen configuration file."

namespace SourceEntry

def identity (e : SourceEntry) : String := Path.shownName e.path

/-- The format that the extension of a path stands for, in capital or small letters. -/
def formatOfPath? (path : String) : Option SourceFormat := do
  match String.ofList ((← Path.extension? path).toList.map Char.toLower) with
  | "csv" => some .csv
  | "json" | "ndjson" | "jsonl" => some .json
  | _ => none

def format (e : SourceEntry) : Except SettingsError SourceFormat :=
  match e.format?.or (formatOfPath? e.path) with
  | some format => .ok format
  | none => .error (.unknownFormat e.path)

/-- The input of an entry. A delimiter matters to delimited text alone, and has to be ASCII. -/
def input (e : SourceEntry) : Except SettingsError RowInput := do
  match ← e.format with
  | .json => .ok (.json (.file e.path))
  | .csv =>
    let delimiter := e.delimiter?.getD ','
    if Text.isAscii delimiter then .ok (.delimited (.file e.path) delimiter)
    else .error (.delimiterNotAscii delimiter e.path)

def source (e : SourceEntry) : Except SettingsError Source := do
  return {
    input := ← e.input
    moduleName? := e.moduleName?
    interfaceName? := e.interfaceName?
    constantName? := e.constantName? }

end SourceEntry

namespace Settings

/-- Whether the settings can drive a run at all. -/
def validate (s : Settings) : Except SettingsError Unit :=
  if s.sources.isEmpty then .error .noSources
  else if s.layout == .combined && Text.isBlankText s.moduleName then .error .noModuleName
  else .ok ()

/-- Takes the paths of the sources relative to the directory of a file. -/
def rebase (s : Settings) (file : String) : Settings :=
  match Path.parent? file with
  | some base =>
    { s with sources := s.sources.map fun e => { e with path := Path.join base e.path } }
  | none => s

end Settings

end RowTypings
