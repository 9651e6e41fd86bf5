import RowTypings.Text.Classes

/-!
Words of a raw name. A name is cut at every character that is not alphanumeric and between a
lowercase and an uppercase character, so `first_name`, `First Name` and `firstName` have the same
words up to case, and the same two spellings.
-/

namespace RowTypings.Naming

open Text

/-- Two neighbouring characters of a name that belong to one word. -/
def sameWord (a b : Char) : Bool :=
  isAlphanumeric a && isAlphanumeric b && !(isLowercase a && isUppercase b)

def words (cs : List Char) : List (List Char) :=
  (cs.splitBy sameWord).filter fun w => w.all isAlphanumeric

def capitalize : List Char → List Char
  | [] => []
  | c :: cs => uppercase c ++ cs.flatMap lowercase

/-- The words capitalized and run together: `order lines` gives `OrderLines`. -/
def pascalCase (cs : List Char) : List Char :=
  (words cs).flatMap capitalize

/-- Like `pascalCase` with the first word in lowercase: `Order Lines` gives `orderLines`. -/
def camelCase (cs : List Char) : List Char :=
  match words cs with
  | [] => []
  | w :: ws => w.flatMap lowercase ++ ws.flatMap capitalize

end RowTypings.Naming
