import RowTypings.Json.Printer
import RowTypings.Text.Classes

/-!
String literals between double quotes. Whatever could end the literal or the line it stands on is
escaped, and so is every other control character.
-/

namespace RowTypings.TypeScript

def escape (c : Char) : List Char :=
  if c == '"' then ['\\', '"']
  else if c == '\\' then ['\\', '\\']
  else if c == '\n' then ['\\', 'n']
  else if c == '\r' then ['\\', 'r']
  else if c == '\t' then ['\\', 't']
  else if c.toNat == 0x2028 || c.toNat == 0x2029 || Text.isControl c then
    '\\' :: 'u' :: Json.fourHexDigits c.toNat
  else [c]

def quote (s : String) : String :=
  String.ofList ('"' :: s.toList.flatMap escape ++ ['"'])

end RowTypings.TypeScript
