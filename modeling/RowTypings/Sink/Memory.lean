import RowTypings.Fields
import RowTypings.Sink.Basic

/-!
Sinks that keep text: a list of artifacts in the order they were first persisted, and a stream that
shows every artifact under its name.
-/

namespace RowTypings.Sink

/-- Artifacts by name, in the order of their first persistence. -/
abbrev Shelf := List (String × String)

def Shelf.text? (shelf : Shelf) (name : String) : Option String := shelf.lookup name

def Shelf.persist (shelf : Shelf) (name text : String) (mode : EmitMode) : Shelf :=
  let old :=
    match mode with
    | .append => (shelf.text? name).getD ""
    | .replace => ""
  Fields.put shelf name (old ++ text)

def memory : Sink Shelf where
  persist shelf name text mode := (shelf.persist name text mode, .ok ())

/-- A stream has nothing to replace or append to, so the mode does not matter. -/
def console : Sink String where
  persist shown name text _ := (shown ++ "// " ++ name ++ "\n" ++ text, .ok ())

end RowTypings.Sink
