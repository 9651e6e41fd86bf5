import RowTypings.Naming.Words

/-!
Identifiers of emitted declarations. Every source identity has an interface name and a constant
name, derived from its words without the file extension.
-/

namespace RowTypings.Naming

open Text

def isIdentifierStart (c : Char) : Bool := isAlphabetic c || c == '_' || c == '$'

def isIdentifierPart (c : Char) : Bool := isAlphanumeric c || c == '_' || c == '$'

/-- A name that needs no quotes as a property and can name a binding. -/
def isIdentifier : List Char → Bool
  | [] => false
  | c :: cs => isIdentifierStart c && cs.all isIdentifierPart

/-- `people.csv` gives `people`; a name whose only point comes first has no extension. -/
def stripExtension (cs : List Char) : List Char :=
  match cs.reverse.dropWhile (· != '.') with
  | _ :: c :: stem => (c :: stem).reverse
  | _ => cs

/-- Words that cannot name a constant. -/
def reservedWords : List String :=
  ["break", "case", "catch", "class", "const", "continue", "debugger", "default", "delete", "do",
    "else", "enum", "export", "extends", "false", "finally", "for", "function", "if", "import",
    "in", "instanceof", "let", "new", "null", "return", "super", "switch", "this", "throw", "true",
    "try", "typeof", "var", "void", "while", "with", "yield"]

def isReserved (name : String) : Bool := reservedWords.contains name

def startsWithDigit (cs : List Char) : Bool :=
  match cs with
  | c :: _ => c.isDigit
  | [] => false

/-- `order-lines.csv` is declared as the interface `OrderLines`. -/
def interfaceName (identity : String) : String :=
  let base := pascalCase (stripExtension identity.toList)
  if base.isEmpty then "Content"
  else if startsWithDigit base then "Type" ++ String.ofList base
  else String.ofList base

/-- `order-lines.csv` is declared as the constant `orderLines`. -/
def constantName (identity : String) : String :=
  let base := camelCase (stripExtension identity.toList)
  let name := String.ofList base
  if base.isEmpty then "content"
  else if startsWithDigit base then "_" ++ name
  else if isReserved name then name ++ "_"
  else name

end RowTypings.Naming
