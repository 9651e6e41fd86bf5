import RowTypings.Run.Compilation
import RowTypings.Run.Report
import RowTypings.TypeScript.Bundle

/-!
Sessions: sources are transformed one after the other, their declarations gather in a bundle, and
the bundle is emitted once at the end. A source that fails leaves a report and nothing else.
-/

namespace RowTypings

open TypeScript

/-- A constant of the combined layout, waiting to be declared under its key. -/
structure CombinedEntry where
  key : String
  typeName : String
  value : ContentExpr
  origin : String

structure Session where
  settings : Settings
  bundle : Bundle
  combined : List CombinedEntry := []
  reports : List SourceReport := []

namespace Session

def start (settings : Settings) : Session where
  settings := settings
  bundle := { indent := settings.declarations.indent }

/-- The module that a source is declared in, `own` being the one it would have to itself. -/
def moduleFor (s : Session) (own : String) : String :=
  match s.settings.layout with
  | .separate => own
  | .combined => s.settings.moduleName

def addReport (s : Session) (r : SourceReport) : Session :=
  { s with reports := s.reports ++ [r] }

/-! ### Declaring -/

def typeNameOf (source : Source) (compiled : Compiled) : String :=
  if compiled.isList then source.interfaceName ++ "[]" else source.interfaceName

/-- Declares the interface of a source, unless its module has one of that name. -/
def declareInterface (s : Session) (module : String) (source : Source) (compiled : Compiled) :
    Session × List Diagnostic :=
  let bundle := s.bundle.addOrigin module source.identity
  let name := source.interfaceName
  if (bundle.module? module).any fun m => m.hasInterface name then
    ({ s with bundle }, [.duplicateDeclaration module name])
  else
    ({ s with bundle := bundle.declareInterface module ⟨name, compiled.members⟩ }, [])

/-- Declares the constant of a source, or keeps it for the end in the combined layout, unless there
is one of that name. -/
def declareConstant (s : Session) (module : String) (source : Source) (compiled : Compiled) :
    Session × List Diagnostic :=
  let name := source.constantName
  let typeName := typeNameOf source compiled
  let taken : Bool :=
    match s.settings.layout with
    | .separate => (s.bundle.module? module).any fun m => m.hasConstant name
    | .combined => s.combined.any fun e => e.key == name
  if taken then (s, [.duplicateDeclaration module name])
  else
    match s.settings.layout with
    | .separate =>
      ({ s with bundle := s.bundle.declareConstant module ⟨name, typeName, compiled.value⟩ }, [])
    | .combined =>
      ({ s with combined := s.combined ++ [⟨name, typeName, compiled.value, source.identity⟩] },
        [])

def declare (s : Session) (module : String) (source : Source) (compiled : Compiled) :
    Session × List Diagnostic :=
  let (s, first) := s.declareInterface module source compiled
  let (s, second) := s.declareConstant module source compiled
  (s, first ++ second)

/-! ### Sources -/

def successReport (source : Source) (module : String) (compiled : Compiled)
    (reported : List Diagnostic) : SourceReport where
  identity := source.identity
  module := module
  rows := compiled.rows
  stats := compiled.stats
  coercionFailures := reported.countP Diagnostic.isCoercion
  diagnostics := reported.length

def failureReport (identity module message : String) : SourceReport where
  identity := identity
  module := module
  error? := some message

/-- What a step of a session gives: the next state, what was reported, and the result. -/
structure Step (α : Type) where
  session : Session
  reported : List Diagnostic
  result : α

def transform (s : Session) (t : FileTree) (source : Source) :
    Step (Except SourceError SourceReport) :=
  let module := s.moduleFor source.moduleName
  match compileSource s.settings t source with
  | (reported, .ok compiled) =>
    let report := successReport source module compiled reported
    let (declared, duplicates) := s.declare module source compiled
    ⟨declared.addReport report, reported ++ duplicates, .ok report⟩
  | (reported, .error e) =>
    ⟨s.addReport (failureReport source.identity module e.message), reported, .error e⟩

/-- Transforms a source; if it fails, that is reported like anything else. -/
def attempt (s : Session) (t : FileTree) (source : Source) : Session × List Diagnostic :=
  let step := s.transform t source
  match step.result with
  | .ok _ => (step.session, step.reported)
  | .error e => (step.session, step.reported ++ [.sourceFailed source.identity e.message])

def attemptAll (s : Session) (t : FileTree) : List Source → Session × List Diagnostic
  | [] => (s, [])
  | source :: rest =>
    let (s, first) := s.attempt t source
    let (s, later) := s.attemptAll t rest
    (s, first ++ later)

/-- Records a source that cannot even be tried. -/
def skip (s : Session) (identity message : String) : Session × List Diagnostic :=
  (s.addReport (failureReport identity (s.moduleFor identity) message),
    [.sourceFailed identity message])

/-! ### The end -/

def combinedMember (settings : Settings) (e : CombinedEntry) : String :=
  (if settings.declarations.readonly then "readonly " else "") ++ e.key ++ ": " ++ e.typeName ++
    "; // " ++ e.origin

/-- The first of `base`, `base2`, `base3`, … that no interface of the module has. -/
def freeInterfaceName (m : Module) (base : String) : String :=
  if m.hasInterface base then
    let isFree := fun n : Nat => !m.hasInterface (base ++ toString n)
    match (List.range' 2 m.interfaces.length).find? isFree with
    | some n => base ++ toString n
    | none => base
  else base

/-- Declares the interface and the constant that hold all sources of the combined layout. -/
def declareCombined (s : Session) : Bundle :=
  let settings := s.settings
  let base := settings.interfaceName?.getD (Naming.interfaceName settings.moduleName)
  let constant := settings.constantName?.getD (Naming.constantName settings.moduleName)
  s.bundle.update settings.moduleName fun m =>
    let name := freeInterfaceName m base
    (m.declareInterface ⟨name, s.combined.map (combinedMember settings)⟩).declareConstant
      ⟨constant, name, .keyed (s.combined.map fun e => (e.key, e.value))⟩

/-- The bundle as it is emitted. -/
def finalBundle (s : Session) : Bundle :=
  if s.settings.layout == .combined && !s.combined.isEmpty then s.declareCombined else s.bundle

/-- The end of a session: the state of the sink, what was reported, and the report of the run. -/
structure Finish (σ : Type) where
  state : σ
  reported : List Diagnostic
  report : Report

def finalize {σ : Type} (s : Session) (sink : Sink σ) (state : σ) : Finish σ :=
  let (state, emission) := s.finalBundle.emit sink s.settings.emitMode state
  let failed := emission.failures.map fun (name, e) => (name, e.message)
  { state
    reported := failed.map fun (name, message) => .emitFailed name message
    report := { sources := s.reports, artifacts := emission.persisted, failedArtifacts := failed } }

end Session

/-- Adds one configured source to a session. An entry that describes no source fails on its own. -/
def Session.addEntry (t : FileTree) (s : Session) (entry : SourceEntry) : Session :=
  match entry.source with
  | .ok source => (s.attempt t source).1
  | .error e => (s.skip entry.identity e.message).1

/-- The session in which every configured source was tried. -/
def Session.ofSettings (settings : Settings) (t : FileTree) : Session :=
  settings.sources.foldl (Session.addEntry t) (Session.start settings)

/-- Runs every configured source and emits the result. -/
def run {σ : Type} (settings : Settings) (t : FileTree) (sink : Sink σ) (state : σ) :
    Except SettingsError (σ × Report) := do
  settings.validate
  let finish := (Session.ofSettings settings t).finalize sink state
  return (finish.state, finish.report)

end RowTypings
