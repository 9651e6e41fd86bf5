import RowTypings.Json.Value
import RowTypings.Yaml.Scalar

/-!
Writing a value as a YAML document in block style. Every level is indented by two spaces, lists
under a key by none; empty objects and lists are written as brackets.
-/

namespace RowTypings.Yaml

/-- The longest key on one line with its value, in bytes. -/
def longestSimpleKey : Nat := 128

/-- A key that is long or has several lines needs a mark of its own. -/
def isSimpleKey (key : String) : Bool :=
  !key.toList.any isBreak && key.utf8ByteSize ≤ longestSimpleKey

/-- Ends the line, unless the text has done so. -/
def endLine (s : String) : String := if s.toList.getLast?.any isBreak then s else s ++ "\n"

def spaces (n : Nat) : String := String.ofList (margin n)

/-- Entries at an indentation, of which the first is where the line already is. -/
def joinEntries (indent : Nat) (entries : List String) : String :=
  (spaces indent).intercalate entries

/-- A value that is no object or list, or has nothing in it. -/
def leaf (indent : Nat) : Value → String
  | .null => "null"
  | .bool b => if b then "true" else "false"
  | .number n => n.write
  | .text s => writeText indent s
  | .array _ => "[]"
  | .object _ => "\x7b\x7d"

mutual

/-- A value behind `key:`, up to the end of its last line. -/
def afterKey (indent : Nat) : Value → String
  | .object (field :: fields) =>
    "\n" ++ spaces (indent + 2) ++
      joinEntries (indent + 2) (writeFields (indent + 2) (field :: fields))
  | .array (item :: items) =>
    "\n" ++ spaces indent ++ joinEntries indent (writeItems indent (item :: items))
  | v => " " ++ endLine (leaf (indent + 2) v)

/-- A value behind a mark of one character, up to the end of its last line. -/
def afterMark (indent : Nat) : Value → String
  | .object (field :: fields) =>
    " " ++ joinEntries (indent + 2) (writeFields (indent + 2) (field :: fields))
  | .array (item :: items) =>
    " " ++ joinEntries (indent + 2) (writeItems (indent + 2) (item :: items))
  | v => " " ++ endLine (leaf (indent + 2) v)

def writeFields (indent : Nat) : List (String × Value) → List String
  | [] => []
  | (key, v) :: fields =>
    let text := writeText (indent + 2) key
    (if isSimpleKey key then text ++ ":" ++ afterKey indent v
      else "? " ++ endLine text ++ spaces indent ++ ":" ++ afterMark indent v) ::
      writeFields indent fields

def writeItems (indent : Nat) : List Value → List String
  | [] => []
  | v :: items => ("-" ++ afterMark indent v) :: writeItems indent items

end

/-- The document of a value. -/
def write : Value → String
  | .object (field :: fields) => joinEntries 0 (writeFields 0 (field :: fields))
  | .array (item :: items) => joinEntries 0 (writeItems 0 (item :: items))
  | v => endLine (leaf 2 v)

end RowTypings.Yaml
