import RowTypings.Command.Arguments
import RowTypings.Command.Outcome
import RowTypings.Run.Session
import RowTypings.Settings.Toml
import RowTypings.Sink.Directory
import RowTypings.Sink.Memory

/-!
The command that turns sources into modules, below a directory or on the output.
-/

namespace RowTypings.Command

/-- The settings of a run: those of the settings file with what the command line says on top. -/
def GenerateArguments.applyTo (a : GenerateArguments) (s : Settings) : Settings :=
  { s with
    sources := s.sources ++ a.sources.map fun path => { path }
    layout := a.layout?.getD s.layout
    moduleName := a.moduleName?.getD s.moduleName
    emitMode := if a.append then .append else s.emitMode
    inference :=
      { s.inference with
        sampleSize := a.sampleSize?.getD s.inference.sampleSize
        refineRequired := a.refineRequired || s.inference.refineRequired } }

def GenerateArguments.settings (a : GenerateArguments) (t : FileTree) : Except Failure Settings :=
  let given : Except SettingsError Settings :=
    match a.config? with
    | some path => Settings.ofFile t path
    | none => .ok {}
  match given with
  | .error e => .error (.badSettings e)
  | .ok s =>
    let s := a.applyTo s
    if s.sources.isEmpty then .error .noSources else .ok s

/-- What remains to be said after a run. -/
def finished (t : FileTree) (output : String) (report : Report) : Outcome :=
  let o : Outcome := { tree := t, output, notes := [.summary report] }
  if report.failureCount == 0 then o else o.failing (.partly report.failureCount)

/-- Runs the settings into the directory of the arguments, or else onto the output. -/
def GenerateArguments.run (a : GenerateArguments) (t : FileTree) : Outcome :=
  let unchanged : Outcome := { tree := t }
  match a.settings t with
  | .error failure => unchanged.failing failure
  | .ok settings =>
    match a.directory? with
    | some directory =>
      match RowTypings.run settings t (Sink.directory directory) t with
      | .ok (t, report) => finished t "" report
      | .error e => unchanged.failing (.notStarted e)
    | none =>
      match RowTypings.run settings t Sink.console "" with
      | .ok (output, report) => finished t output report
      | .error e => unchanged.failing (.notStarted e)

/-- The paths below a directory that the artifacts of a run go to. -/
def artifactPaths (settings : Settings) (t : FileTree) (directory : String) : List String :=
  (Session.ofSettings settings t).finalBundle.modules.map fun m =>
    Path.join directory (Sink.withoutLeadingSlashes m.artifactName)

/-- The paths that matter to the command, as far as the tree shows them. -/
def GenerateArguments.paths (a : GenerateArguments) (t : FileTree) : List String :=
  a.config?.toList ++
    match a.settings t with
    | .ok settings =>
      settings.sources.map SourceEntry.path ++
        a.directory?.elim [] fun d => d :: artifactPaths settings t d
    | .error _ => []

end RowTypings.Command
