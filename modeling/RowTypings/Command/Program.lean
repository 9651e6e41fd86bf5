import RowTypings.Command.Generate
import RowTypings.Command.Infer

/-!
The program as a whole: from the words of a command line to its outcome on a file tree.
-/

namespace RowTypings.Command

def versionLine : String := "fixturegen 0.3.0\n"

/-- How the program is called, one line for each way. -/
def usage : List String :=
  ["Usage: fixturegen [-v]... <COMMAND>", "", "Commands:",
    "  generate [SOURCE]... [-c FILE] [--layout separate|combined] [--module-name NAME]",
    "           [-o DIR] [--append] [--sample-size N] [--refine-required]",
    "  infer SOURCE [-f json|yaml] [--sample-size N] [--refine-required] [--stats] [-o FILE]",
    "  help [COMMAND]"]

/-- What comes of an invocation on a file tree. -/
def Invocation.perform (i : Invocation) (t : FileTree) : Outcome :=
  match i with
  | .generate a => a.run t
  | .infer a => a.run t
  | .version => { tree := t, output := versionLine }
  | .help => { tree := t, output := String.join (usage.map (· ++ "\n")) }
  | .misuse => { tree := t, notes := usage.map .line, status := 2 }

/-- The paths that matter to an invocation, as far as the tree shows them. -/
def Invocation.paths (i : Invocation) (t : FileTree) : List String :=
  match i with
  | .generate a => a.paths t
  | .infer a => a.paths
  | _ => []

end RowTypings.Command
