import RowTypings.Sink.Basic

/-!
A sink over a base directory: each artifact is the file of its name below it. Names that step up are
refused, and so are names whose directory is already there but outside the base.
-/

namespace RowTypings.Sink

def withoutLeadingSlashes (name : String) : String :=
  String.ofList (name.toList.dropWhile (· == '/'))

def isPlain : Path.Component → Bool
  | .name _ => true
  | .here => true
  | _ => false

/-- Whether the directory at `p` is there and lies outside the base, links followed. -/
def leadsOut (t : FileTree) (base p : String) : Bool :=
  match t.locate p, t.locate base with
  | .ok l, .ok b => !b.isPrefixOf l
  | _, _ => false

/-- The path of an artifact below the base directory. -/
def artifactPath (t : FileTree) (base name : String) : Except StorageError String :=
  let relative := withoutLeadingSlashes name
  if relative == "" then .error .emptyName
  else if !(Path.components relative).all isPlain then .error .traversal
  else
    let full := Path.join base relative
    if (Path.parent? full).any (leadsOut t base) then .error .outsideBase else .ok full

def editFor (mode : EmitMode) (text : String) (old : ByteArray) : ByteArray :=
  match mode with
  | .append => old ++ text.toUTF8
  | .replace => text.toUTF8

/-- Writes the artifact at its path, after making the directories it needs. -/
def writeArtifact (t : FileTree) (name path text : String) (mode : EmitMode) :
    FileTree × Except StorageError Unit :=
  match (Path.parent? path).elim (t, none) t.makeDirectories with
  | (t, some cause) => (t, .error (.noDirectory name cause))
  | (t, none) =>
    match t.writeFile path (editFor mode text) with
    | .ok t => (t, .ok ())
    | .error cause => (t, .error (.notOpened name cause))

def directory (base : String) : Sink FileTree where
  persist t name text mode :=
    match artifactPath t base name with
    | .error e => (t, .error e)
    | .ok path => writeArtifact t name path text mode

end RowTypings.Sink
