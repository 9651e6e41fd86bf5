import RowTypings.Command.Program

/-!
The program on real files. The part of the file system that a command line names is read into a file
tree, the command works on the tree, and what it changed is written back.
-/

namespace RowTypings

def pathOfLocation (l : Location) : String := "/" ++ "/".intercalate l

def realLocation? (path : String) : IO (Option Location) := do
  try return some (FileTree.names (toString (← IO.FS.realPath path)))
  catch _ => return none

/-- The tree with a directory, and with those above it. -/
def putDirectories (t : FileTree) (l : Location) : FileTree :=
  (List.range l.length).foldl (fun t i => t.put (l.take (i + 1)) .directory) t

/-- Reads what stands on the way along names from a real directory. -/
def loadNames (t : FileTree) (l : Location) : List String → IO FileTree
  | [] => return t
  | "." :: rest => loadNames t l rest
  | ".." :: rest => loadNames t l.dropLast rest
  | name :: rest => do
    let here := l ++ [name]
    match ← realLocation? (pathOfLocation here) with
    | none => return t
    | some real =>
      let t := putDirectories t real.dropLast
      let t := if real == here then t else t.put here (.link (pathOfLocation real))
      match ← realLocation? (pathOfLocation real ++ "/.") with
      | some _ => loadNames (t.put real .directory) real rest
      | none => return t.put real (.file (← IO.FS.readBinFile (pathOfLocation real)))

def load (t : FileTree) (path : String) : IO FileTree :=
  loadNames t (FileTree.start t.workingDirectory path) (FileTree.names path)

/-- Reads the paths of an invocation. Settings name sources, and sources name artifacts, so this is
done three times. -/
def loadAll (i : Command.Invocation) (t : FileTree) : IO FileTree := do
  let mut t := t
  for _ in [1, 2, 3] do
    for path in i.paths t do
      t ← load t path
  return t

/-- Whether an entry was there before as it is now. -/
def isUnchanged (old : FileTree) (l : Location) (e : FileEntry) : Bool :=
  match old.lookup l, e with
  | some .directory, .directory => true
  | some (.file before), .file content => content == before
  | some (.link before), .link target => target == before
  | _, _ => false

/-- Writes back what differs from the tree as it was read. -/
def store (old new : FileTree) : IO Unit := do
  for (l, e) in new.entries do
    if !isUnchanged old l e then
      match e with
      | .directory => IO.FS.createDir (pathOfLocation l)
      | .file content => IO.FS.writeBinFile (pathOfLocation l) content
      | .link _ => pure ()

end RowTypings

open RowTypings in
def main (words : List String) : IO UInt32 := do
  let started ← IO.monoMsNow
  let invocation := Command.Invocation.ofWords words
  let directory := FileTree.names (toString (← IO.currentDir))
  let bare : FileTree := { entries := [], workingDirectory := directory }
  let tree ← loadAll invocation (putDirectories bare directory)
  let outcome := invocation.perform tree
  IO.print outcome.output
  store tree outcome.tree
  IO.eprint (outcome.printedNotes ((← IO.monoMsNow) - started))
  return outcome.status.toUInt32
