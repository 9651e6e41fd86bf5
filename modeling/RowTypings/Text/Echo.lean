import RowTypings.Text.Classes

/-!
Echoing a text inside a message. What cannot be seen on its own, or would blend with the character
before it, is shown by its code point.
-/

namespace RowTypings.Text

/-- `\u{…}` with the code point in lowercase hexadecimal. -/
def codePointEscape (c : Char) : List Char :=
  "\\u\x7b".toList ++ Nat.toDigits 16 c.toNat ++ ['\x7d']

/-- One character as it is echoed between quotes of the kind `quote`. -/
def echoChar (quote : Char) (c : Char) : List Char :=
  if c == '\x00' then ['\\', '0']
  else if c == '\t' then ['\\', 't']
  else if c == '\r' then ['\\', 'r']
  else if c == '\n' then ['\\', 'n']
  else if c == '\\' || c == quote then ['\\', c]
  else if isGraphemeExtend c || !isPrintable c then codePointEscape c
  else [c]

/-- A text between double quotes. -/
def echo (s : String) : String :=
  String.ofList ('"' :: s.toList.flatMap (echoChar '"') ++ ['"'])

/-- A character between single quotes. -/
def echoOne (c : Char) : String :=
  String.ofList ('\'' :: echoChar '\'' c ++ ['\''])

end RowTypings.Text
