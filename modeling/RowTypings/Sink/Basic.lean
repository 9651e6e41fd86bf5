import RowTypings.Files.FileTree

/-!
Sinks take artifacts, each a name with a text. A sink is described by what persisting does to its
state; it may refuse an artifact.
-/

namespace RowTypings

/-- What happens to an artifact of the same name that a sink already holds. -/
inductive EmitMode where
  | append
  | replace
  deriving DecidableEq

inductive StorageError where
  | emptyName
  | traversal
  | outsideBase
  | readOnly (name : String)
  | noDirectory (name : String) (cause : FileError)
  | notOpened (name : String) (cause : FileError)

namespace StorageError

/-- The artifact was refused on account of its name, before anything was touched. -/
def isPermission : StorageError → Bool
  | noDirectory .. => false
  | notOpened .. => false
  | _ => true

def message : StorageError → String
  | emptyName => "Permission denied: Empty artifact name"
  | traversal => "Permission denied: Path traversal not allowed"
  | outsideBase => "Permission denied: Path escapes base directory"
  | readOnly name => s!"Permission denied: {name} is read-only"
  | noDirectory name cause =>
    s!"IO error: Failed to create directory for {name}: {cause.message}"
  | notOpened name cause => s!"IO error: Failed to open {name}: {cause.message}"

end StorageError

/-- A destination with states in `σ`. -/
structure Sink (σ : Type) where
  persist : σ → (name text : String) → EmitMode → σ × Except StorageError Unit

/-- The sink with some names made read-only. -/
def Sink.refusing {σ : Type} (sink : Sink σ) (names : List String) : Sink σ where
  persist s name text mode :=
    if names.contains name then (s, .error (.readOnly name)) else sink.persist s name text mode

end RowTypings
