import RowTypings.Toml.Plain
import RowTypings.Toml.Table

/-!
Reading a TOML document: keys, values, and the lines that hold them. Lists and inline tables nest
less than eighty levels deep, and a dotted key has less than eighty parts.
-/

namespace RowTypings.Toml

/-- The text behind a comment that starts here; a comment ends before the line does. -/
def skipComment : List Char → List Char
  | '#' :: cs => cs.dropWhile isPlainChar
  | cs => cs

/-! ### Keys -/

def isBareKeyChar (c : Char) : Bool := c.isAlphanum || c == '_' || c == '-'

/-- One part of a key, bare or in quotes on one line. -/
def readKeyPart (cs : List Char) : Option (String × List Char) :=
  match readQuoted.readQuotedLine cs with
  | some (text, rest) => some (String.ofList text, rest)
  | none =>
    let name := cs.takeWhile isBareKeyChar
    if name.isEmpty then none else some (String.ofList name, cs.dropWhile isBareKeyChar)

/-- The parts of a dotted key, at least one and at most `parts`; blanks may stand around each. -/
def readKey : Nat → List Char → Option (List String × List Char)
  | 0, _ => none
  | parts + 1, cs => do
    let (name, rest) ← readKeyPart (skipBlanks cs)
    match skipBlanks rest with
    | '.' :: rest => (readKey parts rest).map fun (names, rest) => (name :: names, rest)
    | rest => some ([name], rest)

def greatestDepth : Nat := 79

def readDottedKey (cs : List Char) : Option (List String × List Char) := readKey greatestDepth cs

/-! ### Values -/

/-- Skips blanks, line breaks and comments between the items of a list. -/
def skipBetweenItems : Nat → List Char → List Char
  | 0, cs => cs
  | steps + 1, cs =>
    let cs := skipComment (skipBlanks cs)
    match behindBreak? cs with
    | some rest => skipBetweenItems steps rest
    | none => cs

def skipToItem (cs : List Char) : List Char := skipBetweenItems cs.length cs

/-- The items of a list behind its opening bracket; a comma may follow the last one. -/
def readItems (item : List Char → Option (Node × List Char)) :
    Nat → List Char → Option (List Node × List Char)
  | 0, _ => none
  | steps + 1, cs =>
    match skipToItem cs with
    | ']' :: rest => some ([], rest)
    | cs => do
      let (v, rest) ← item cs
      match skipToItem rest with
      | ',' :: rest => (readItems item steps rest).map fun (vs, rest) => (v :: vs, rest)
      | ']' :: rest => some ([v], rest)
      | _ => none

/-- `key = value`, the key dotted or not. -/
def readEntry (value : List Char → Option (Node × List Char)) (cs : List Char) :
    Option ((List String × Node) × List Char) := do
  let (path, rest) ← readDottedKey cs
  let (v, rest) ← value (skipBlanks (← readWord ['='] rest))
  return ((path, v), rest)

/-- The entries of an inline table, at least one, up to its closing brace. -/
def readInlineEntries (value : List Char → Option (Node × List Char)) :
    Nat → List Char → Option ((List (List String × Node)) × List Char)
  | 0, _ => none
  | steps + 1, cs => do
    let (e, rest) ← readEntry value cs
    match skipBlanks rest with
    | ',' :: rest => (readInlineEntries value steps rest).map fun (es, rest) => (e :: es, rest)
    | '\x7d' :: rest => some ([e], rest)
    | _ => none

/-- An inline table behind its opening brace. -/
def readInlineTable (value : List Char → Option (Node × List Char)) (cs : List Char) :
    Option (Node × List Char) := do
  let (entries, rest) ←
    match skipBlanks cs with
    | '\x7d' :: rest => some ([], rest)
    | cs => readInlineEntries value (cs.length + 1) cs
  return (.table .inline (← Table.addEntries [] entries), rest)

/-- A value without quotes and brackets. -/
def readPlain (cs : List Char) : Option (Node × List Char) :=
  ((readWord "true".toList cs).map fun rest => (.boolean true, rest))
    <|> ((readWord "false".toList cs).map fun rest => (.boolean false, rest))
    <|> ((readTimestamp cs).map fun (s, rest) => (.timestamp s, rest))
    <|> ((readDecimal cs).map fun (s, rest) => (.float s, rest))
    <|> ((readSpecial cs).map fun (s, rest) => (.float s, rest))
    <|> ((readInteger cs).map fun (n, rest) => (.integer n, rest))

/-- A value in which brackets and braces nest at most `depth` deep. -/
def readValue : Nat → List Char → Option (Node × List Char)
  | 0, cs => readScalar cs
  | depth + 1, cs =>
    match cs with
    | '[' :: rest =>
      (readItems (readValue depth) cs.length rest).map fun (vs, rest) => (.list vs, rest)
    | '\x7b' :: rest => readInlineTable (readValue depth) rest
    | cs => readScalar cs
where
  readScalar (cs : List Char) : Option (Node × List Char) :=
    if cs.head?.any fun c => c == '"' || c == '\'' then
      (readQuoted cs).map fun (text, rest) => (.text (String.ofList text), rest)
    else readPlain cs

/-! ### Lines -/

/-- One line of a document that says something. -/
inductive Line where
  | entry (path : List String) (value : Node)
  | header (path : List String) (isElement : Bool)

/-- The text of the next line, where nothing but blanks and a comment is left on this one. -/
def endLine (cs : List Char) : Option (List Char) :=
  match skipComment (skipBlanks cs) with
  | [] => some []
  | cs => behindBreak? cs

/-- A line that starts with a key or a bracket. -/
def readLine (cs : List Char) : Option (Line × List Char) := do
  let (line, rest) ←
    match cs with
    | '[' :: '[' :: cs => do
      let (path, rest) ← readDottedKey cs
      some (Line.header path true, ← readWord [']', ']'] rest)
    | '[' :: cs => do
      let (path, rest) ← readDottedKey cs
      some (Line.header path false, ← readWord [']'] rest)
    | cs => do
      let ((path, v), rest) ← readEntry (readValue greatestDepth) cs
      some (Line.entry path v, rest)
  return (line, ← endLine rest)

/-- All lines that say something. -/
def readLines : Nat → List Char → Option (List Line)
  | 0, _ => none
  | steps + 1, cs =>
    match skipBlanks cs with
    | [] => some []
    | cs =>
      match endLine cs with
      | some rest => readLines steps rest
      | none => do
        let (line, rest) ← readLine cs
        return line :: (← readLines steps rest)

/-- The entries before the first header, and every header with the entries below it. -/
def splitLines : List Line → List (List String × Node) × List Table.Section
  | [] => ([], [])
  | .entry path v :: rest =>
    let (entries, sections) := splitLines rest
    ((path, v) :: entries, sections)
  | .header path isElement :: rest =>
    let (entries, sections) := splitLines rest
    ([], ⟨path, isElement, entries⟩ :: sections)

/-- The table a document stands for. A byte order mark at its very start does not count. -/
def read (text : String) : Option Table := do
  let cs :=
    match text.toList with
    | '\uFEFF' :: cs => cs
    | cs => cs
  let (entries, sections) := splitLines (← readLines (cs.length + 1) cs)
  Table.ofSections entries sections

end RowTypings.Toml
