import RowTypings.Json.Value

/-!
Writing JSON text, compact and indented. In a string only the quote, the backslash and the
characters below U+0020 are escaped.
-/

namespace RowTypings.Json

def hexDigit (n : Nat) : Char := Nat.digitChar (n % 16)

/-- The four lowercase hexadecimal digits of `n`. -/
def fourHexDigits (n : Nat) : List Char :=
  [hexDigit (n / 4096), hexDigit (n / 256), hexDigit (n / 16), hexDigit n]

def escape (c : Char) : List Char :=
  if c == '"' then ['\\', '"']
  else if c == '\\' then ['\\', '\\']
  else if c == '\x08' then ['\\', 'b']
  else if c == '\x0c' then ['\\', 'f']
  else if c == '\n' then ['\\', 'n']
  else if c == '\r' then ['\\', 'r']
  else if c == '\t' then ['\\', 't']
  else if c.toNat < 32 then '\\' :: 'u' :: fourHexDigits c.toNat
  else [c]

def quote (s : String) : String :=
  String.ofList ('"' :: s.toList.flatMap escape ++ ['"'])

mutual

def compact : Value → String
  | .null => "null"
  | .bool b => if b then "true" else "false"
  | .number n => n.write
  | .text s => quote s
  | .array items => "[" ++ ",".intercalate (compactItems items) ++ "]"
  | .object fields => "\x7b" ++ ",".intercalate (compactFields fields) ++ "\x7d"

def compactItems : List Value → List String
  | [] => []
  | v :: vs => compact v :: compactItems vs

def compactFields : List (String × Value) → List String
  | [] => []
  | (name, v) :: fields => (quote name ++ ":" ++ compact v) :: compactFields fields

end

/-- Lines of a bracketed list, indented by two spaces for each level. -/
def block (level : Nat) (opening closing : String) (lines : List String) : String :=
  if lines.isEmpty then opening ++ closing
  else
    let margin := "\n" ++ String.ofList (List.replicate (2 * level) ' ')
    opening ++ margin ++ "  " ++ ("," ++ margin ++ "  ").intercalate lines ++ margin ++ closing

mutual

def indented (level : Nat) : Value → String
  | .array items => block level "[" "]" (indentedItems (level + 1) items)
  | .object fields => block level "\x7b" "\x7d" (indentedFields (level + 1) fields)
  | .null => "null"
  | .bool b => if b then "true" else "false"
  | .number n => n.write
  | .text s => quote s

def indentedItems (level : Nat) : List Value → List String
  | [] => []
  | v :: vs => indented level v :: indentedItems level vs

def indentedFields (level : Nat) : List (String × Value) → List String
  | [] => []
  | (name, v) :: fields =>
    (quote name ++ ": " ++ indented level v) :: indentedFields level fields

end

end RowTypings.Json
