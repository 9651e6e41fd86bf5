import RowTypings.Files.Path

/-!
A file tree: directories, files and symbolic links, each at a location. Operations take paths as
text, resolve them from a working directory, and return a new tree or the reason why not.
-/

namespace RowTypings

/-- A place in a file tree: the names on the way from the root. -/
abbrev Location := List String

inductive FileEntry where
  | directory
  | file (content : ByteArray)
  | link (target : String)

inductive FileError where
  | notFound
  | alreadyExists
  | notDirectory
  | isDirectory
  | nameTooLong
  | tooManyLinks
  | nulInName
  | notText
  deriving DecidableEq

def FileError.message : FileError → String
  | notFound => "No such file or directory (os error 2)"
  | alreadyExists => "File exists (os error 17)"
  | notDirectory => "Not a directory (os error 20)"
  | isDirectory => "Is a directory (os error 21)"
  | nameTooLong => "File name too long (os error 36)"
  | tooManyLinks => "Too many levels of symbolic links (os error 40)"
  | nulInName => "file name contained an unexpected NUL byte"
  | notText => "stream did not contain valid UTF-8"

/-- Everything below the root, in no particular order, with the directory that relative paths start
from. -/
structure FileTree where
  entries : List (Location × FileEntry)
  workingDirectory : Location

namespace FileTree

def lookup (t : FileTree) (l : Location) : Option FileEntry :=
  if l.isEmpty then some .directory else t.entries.lookup l

/-- The tree with `e` at `l`, in place of what was there. -/
def put (t : FileTree) (l : Location) (e : FileEntry) : FileTree :=
  let rec go : List (Location × FileEntry) → List (Location × FileEntry)
    | [] => [(l, e)]
    | (m, f) :: rest => if m == l then (l, e) :: rest else (m, f) :: go rest
  { t with entries := go t.entries }

/-! ### Resolution -/

/-- Where a path leads: to an entry, or to a free name in a directory. -/
inductive Target where
  | present (l : Location)
  | free (directory : Location) (name : String)

/-- How far a walk gets before it meets a symbolic link. -/
inductive Walk where
  | arrived (target : Target)
  | onLink (directory : Location) (text : String) (rest : List String)

/-- The longest name of one entry and of a whole path, in bytes. -/
def longestName : Nat := 255

def longestPath : Nat := 4095

/-- Walks along names from a directory. A link at the very end is followed only if `follow` says
so. -/
def walk (t : FileTree) (follow : Bool) (l : Location) : List String → Except FileError Walk
  | [] => .ok (.arrived (.present l))
  | "." :: rest => walk t follow l rest
  | ".." :: rest => walk t follow l.dropLast rest
  | name :: rest =>
    if longestName < name.utf8ByteSize then .error .nameTooLong
    else
      match t.lookup (l ++ [name]) with
      | none => if rest.isEmpty then .ok (.arrived (.free l name)) else .error .notFound
      | some .directory => walk t follow (l ++ [name]) rest
      | some (.file _) =>
        if rest.isEmpty then .ok (.arrived (.present (l ++ [name]))) else .error .notDirectory
      | some (.link text) =>
        if rest.isEmpty && !follow then .ok (.arrived (.present (l ++ [name])))
        else .ok (.onLink l text rest)

/-- The names of a path, points included. -/
def names (p : String) : List String := (Path.segments p).filter (· != "")

/-- Where a path from `l` starts. -/
def start (l : Location) (p : String) : Location := if Path.isAbsolute p then [] else l

/-- Follows links, as many as `links` allows. -/
def follow (t : FileTree) (last : Bool) : Nat → Location → List String → Except FileError Target
  | links, l, ns =>
    match t.walk last l ns with
    | .error e => .error e
    | .ok (.arrived target) => .ok target
    | .ok (.onLink directory text rest) =>
      match links with
      | 0 => .error .tooManyLinks
      | links + 1 => t.follow last links (start directory text) (names text ++ rest)

def mostLinks : Nat := 40

/-- Where a path leads from the working directory. -/
def resolve (t : FileTree) (last : Bool) (p : String) : Except FileError Target :=
  if p.toList.contains '\x00' then .error .nulInName
  else if p == "" then .error .notFound
  else if longestPath < p.utf8ByteSize then .error .nameTooLong
  else t.follow last mostLinks (start t.workingDirectory p) (names p)

/-- The location of what stands at the end of a path, links followed. A path that ends in a slash
leads to directories only. -/
def locate (t : FileTree) (p : String) : Except FileError Location := do
  match ← t.resolve true p with
  | .free _ _ => .error .notFound
  | .present l =>
    match t.lookup l with
    | some (.file _) => if Path.endsInSlash p then .error .notDirectory else .ok l
    | _ => .ok l

def isDirectory (t : FileTree) (p : String) : Bool :=
  match t.locate p with
  | .ok l => match t.lookup l with | some .directory => true | _ => false
  | .error _ => false

/-! ### Reading -/

def readBytes (t : FileTree) (p : String) : Except FileError ByteArray := do
  match t.lookup (← t.locate p) with
  | some (.file content) => .ok content
  | some .directory => .error .isDirectory
  | _ => .error .notFound

def readText (t : FileTree) (p : String) : Except FileError String := do
  match String.fromUTF8? (← t.readBytes p) with
  | some s => .ok s
  | none => .error .notText

/-! ### Writing -/

/-- Makes one directory, in a directory that is already there. -/
def makeDirectory (t : FileTree) (p : String) : Except FileError FileTree := do
  match ← t.resolve false p with
  | .present _ => .error .alreadyExists
  | .free directory name => .ok (t.put (directory ++ [name]) .directory)

/-- The path, its parent, the parent of that, and so on as far as there is a name, each at most as
long as the one before it. -/
def ancestors : Nat → String → List String
  | 0, _ => []
  | n + 1, p =>
    if p == "" then []
    else
      match Path.parent? p with
      | some q => p :: ancestors n q
      | none => [p]

/-- Makes directories from the front of a list of paths up to the first that cannot be made; those
made before it stay. -/
def makeEach (t : FileTree) : List String → FileTree × Option FileError
  | [] => (t, none)
  | p :: rest =>
    match t.makeDirectory p with
    | .ok t => t.makeEach rest
    | .error e =>
      if e == .alreadyExists && t.isDirectory p then t.makeEach rest else (t, some e)

/-- Splits off the paths that cannot be made yet because their own parent is missing. -/
def missing (t : FileTree) : List String → List String × List String
  | [] => ([], [])
  | p :: rest =>
    match t.makeDirectory p with
    | .error .notFound => let (above, below) := t.missing rest; (p :: above, below)
    | _ => ([], p :: rest)

/-- Makes a directory and every directory on the way to it. -/
def makeDirectories (t : FileTree) (p : String) : FileTree × Option FileError :=
  let (pending, found) := t.missing (ancestors (p.length + 1) p)
  t.makeEach (found.take 1 ++ pending.reverse)

/-- Writes a file, making it if its directory is there; `edit` turns the old content, which is empty
for a new file, into the new. -/
def writeFile (t : FileTree) (p : String) (edit : ByteArray → ByteArray) :
    Except FileError FileTree := do
  match ← t.resolve true p with
  | .free directory name =>
    if Path.endsInSlash p then .error .isDirectory
    else .ok (t.put (directory ++ [name]) (.file (edit .empty)))
  | .present l =>
    match t.lookup l with
    | some (.file content) =>
      if Path.endsInSlash p then .error .isDirectory else .ok (t.put l (.file (edit content)))
    | _ => .error .isDirectory

/-- Makes a symbolic link that holds `target` as it stands. -/
def makeLink (t : FileTree) (p target : String) : Except FileError FileTree := do
  match ← t.resolve false p with
  | .present _ => .error .alreadyExists
  | .free directory name => .ok (t.put (directory ++ [name]) (.link target))

/-! ### Listing -/

/-- The names that lead from `base` to a location below it. -/
def below? : Location → Location → Option Location
  | [], l => some l
  | b :: base, n :: l => if b == n then below? base l else none
  | _ :: _, [] => none

/-- The files below a location with their contents, links not followed. -/
def filesBelow (t : FileTree) (base : Location) : List (Location × ByteArray) :=
  t.entries.filterMap fun (l, e) =>
    match e, below? base l with
    | .file content, some rest => some (rest, content)
    | _, _ => none

end FileTree

end RowTypings
