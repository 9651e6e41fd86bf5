import RowTypings.Run.Report
import RowTypings.Settings.Basic

/-!
What comes of a command: the file tree it leaves, the text it prints, its notes, and the status it
ends with.
-/

namespace RowTypings.Command

/-- Why a command failed. -/
inductive Failure where
  | noSources
  | badSettings (cause : SettingsError)
  | notStarted (cause : SettingsError)
  | badSource (cause : SourceError)
  | notWritten (cause : FileError)
  | partly (failures : Nat)

namespace Failure

def message : Failure → String
  | noSources => "Invalid argument: no sources given; pass files or a --config listing them"
  | badSettings cause => cause.runMessage
  | notStarted cause => cause.userMessage
  | badSource cause => s!"Source error: {cause.message}"
  | notWritten cause => s!"Output error: {cause.message}"
  | partly failures => s!"{failures} source(s) or artifact(s) failed"

/-- A run that failed only in part has a status of its own. -/
def status : Failure → Nat
  | partly _ => 2
  | _ => 1

end Failure

/-- One thing a command says besides its output. -/
inductive Note where
  | line (text : String)
  | summary (report : Report)

/-- The lines of a note, so many milliseconds after the start. -/
def Note.lines (milliseconds : Nat) : Note → List String
  | line text => [text]
  | summary report => report.summary milliseconds

structure Outcome where
  tree : FileTree
  output : String := ""
  notes : List Note := []
  status : Nat := 0

/-- The outcome with a failure at its end: one more note, and the status of the failure. -/
def Outcome.failing (o : Outcome) (f : Failure) : Outcome :=
  { o with notes := o.notes ++ [.line s!"Error: {f.message}"], status := f.status }

/-- The notes as they are printed. -/
def Outcome.printedNotes (o : Outcome) (milliseconds : Nat) : String :=
  String.join ((o.notes.flatMap (Note.lines milliseconds)).map (· ++ "\n"))

end RowTypings.Command
