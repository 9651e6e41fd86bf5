/-!
Tables of a TOML document. How a table came into being decides what may be added to it later, so
the form stays with the table while the document is put together.
-/

namespace RowTypings.Toml

inductive TableForm where
  /-- Under a header of its own. -/
  | header
  /-- Made on the way to the header of a table below it. -/
  | implied
  /-- Made by a dotted key. -/
  | dotted
  /-- Written between braces, and complete. -/
  | inline
  deriving DecidableEq

/-- What stands under a key. Numbers with a fraction and timestamps are kept as they are written. -/
inductive Node where
  | text (value : String)
  | integer (value : Int)
  | float (literal : String)
  | boolean (value : Bool)
  | timestamp (literal : String)
  | list (items : List Node)
  | table (form : TableForm) (fields : List (String × Node))
  | tables (items : List (List (String × Node)))

abbrev Table := List (String × Node)

namespace Table

/-- Puts what `f` makes of the field into its place, or behind the others if there was none. -/
def alter (name : String) (f : Option Node → Option Node) : Table → Option Table
  | [] => (f none).map fun v => [(name, v)]
  | (n, v) :: rest =>
    if n == name then (f (some v)).map fun v => (n, v) :: rest
    else (alter name f rest).map ((n, v) :: ·)

/-- Changes the last of some tables. -/
def alterLast (f : Table → Option Table) : List Table → Option (List Table)
  | [] => none
  | [t] => (f t).map ([·])
  | t :: ts => (alterLast f ts).map (t :: ·)

/-- A field that is not there yet. -/
def fresh (value : Node) : Option Node → Option Node
  | none => some value
  | some _ => none

/-- Adds a value under a dotted key. The table it goes to has to be one that dotted keys made,
unless it is the table at hand; the tables on the way may be implied ones as well. -/
def addEntry (value : Node) : List String → Table → Option Table
  | [], _ => none
  | [name], t => t.alter name (fresh value)
  | name :: path, t =>
    let atEnd := path.length == 1
    t.alter name fun
      | none => (addEntry value path []).map (.table .dotted)
      | some (.table form sub) =>
        if form == .dotted || (form == .implied && !atEnd) then
          (addEntry value path sub).map (.table form)
        else none
      | some (.tables ts) =>
        if atEnd then none else (alterLast (addEntry value path) ts).map .tables
      | some _ => none

/-- Adds values under their keys, one after the other. -/
def addEntries (t : Table) (entries : List (List String × Node)) : Option Table :=
  entries.foldlM (fun t e => addEntry e.2 e.1 t) t

/-- Changes the field that a header names. Tables that are missing on the way are implied; of a list
of tables the way goes through the last. -/
def alterAt (f : Option Node → Option Node) : List String → Table → Option Table
  | [], _ => none
  | [name], t => t.alter name f
  | name :: path, t =>
    t.alter name fun
      | none => (alterAt f path []).map (.table .implied)
      | some (.table .inline _) => none
      | some (.table form sub) => (alterAt f path sub).map (.table form)
      | some (.tables ts) => (alterLast (alterAt f path) ts).map .tables
      | some _ => none

/-- A header and the entries below it. -/
structure Section where
  path : List String
  isElement : Bool
  entries : List (List String × Node)

/-- The table of a header, which may have been implied before. -/
def openTable (entries : List (List String × Node)) : Option Node → Option Node
  | none => (addEntries [] entries).map (.table .header)
  | some (.table .implied sub) => (addEntries sub entries).map (.table .header)
  | some _ => none

/-- One more element for the list of tables of a header. -/
def openElement (entries : List (List String × Node)) : Option Node → Option Node
  | none => (addEntries [] entries).map fun t => .tables [t]
  | some (.tables ts) => (addEntries [] entries).map fun t => .tables (ts ++ [t])
  | some _ => none

def addSection (t : Table) (s : Section) : Option Table :=
  t.alterAt (if s.isElement then openElement s.entries else openTable s.entries) s.path

/-- The table of a whole document: entries without a header, then the sections. -/
def ofSections (entries : List (List String × Node)) (sections : List Section) : Option Table := do
  sections.foldlM addSection (← addEntries [] entries)

end Table

end RowTypings.Toml
