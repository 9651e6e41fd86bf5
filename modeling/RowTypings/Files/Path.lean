/-!
Paths as text. A path is read as components between slashes; empty components and single points do
not count, except for a point at the very front.
-/

namespace RowTypings.Path

inductive Component where
  | root
  | here
  | up
  | name (s : String)
  deriving DecidableEq

/-- Everything between slashes, as it stands. -/
def segments (p : String) : List String :=
  (p.toList.splitOn '/').map String.ofList

def isAbsolute (p : String) : Bool :=
  match p.toList with
  | c :: _ => c == '/'
  | [] => false

def endsInSlash (p : String) : Bool :=
  match p.toList.reverse with
  | c :: _ => c == '/'
  | [] => false

/-- A segment that is no component of its own when others come before it. -/
def isVoid (segment : String) : Bool := segment == "" || segment == "."

def componentOf (segment : String) : Component :=
  if segment == "." then .here
  else if segment == ".." then .up
  else .name segment

def components (p : String) : List Component :=
  if isAbsolute p then
    .root :: ((segments p).filter fun s => !isVoid s).map componentOf
  else
    match segments p with
    | "." :: rest => .here :: (rest.filter fun s => !isVoid s).map componentOf
    | all => (all.filter fun s => !isVoid s).map componentOf

/-- The name at the end of a path, if the last component is a name. -/
def fileName? (p : String) : Option String :=
  match (components p).getLast? with
  | some (.name s) => some s
  | _ => none

/-- The name a path is shown by: its file name, or the whole path if it has none. -/
def shownName (p : String) : String := (fileName? p).getD p

/-- What follows the last point of the file name, unless that point comes first. -/
def extension? (p : String) : Option String := do
  let name ← fileName? p
  match name.toList.reverse.span (· != '.') with
  | (suffix, _ :: _ :: _) => some (String.ofList suffix.reverse)
  | _ => none

def dropVoidEnd (segs : List String) : List String :=
  (segs.reverse.dropWhile isVoid).reverse

/-- The segments of a relative path without what does not count at its end. -/
def significant : List String → List String
  | "." :: rest => "." :: dropVoidEnd rest
  | segs => dropVoidEnd segs

/-- The path without its last component; the root and the empty path have no parent. -/
def parent? (p : String) : Option String :=
  if isAbsolute p then
    match dropVoidEnd ((segments p).drop 1) with
    | [] => none
    | body => some ("/" ++ "/".intercalate (dropVoidEnd body.dropLast))
  else
    match significant (segments p) with
    | [] => none
    | body => some ("/".intercalate (significant body.dropLast))

/-- `p` taken relative to `base`, unless it is absolute. -/
def join (base p : String) : String :=
  if isAbsolute p || base == "" then p
  else if endsInSlash base then base ++ p
  else base ++ "/" ++ p

end RowTypings.Path
