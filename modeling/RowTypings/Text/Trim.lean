import RowTypings.Text.Classes

/-!
Trimming white space from the ends of a text.
-/

namespace RowTypings.Text

def trimLeft (cs : List Char) : List Char := cs.dropWhile isBlank

def trimRight (cs : List Char) : List Char := (cs.reverse.dropWhile isBlank).reverse

/-- `s` without the white space at its two ends. -/
def trim (s : String) : String :=
  String.ofList (trimRight (trimLeft s.toList))

/-- A text of white space alone, the empty text included. -/
def isBlankText (s : String) : Bool := s.toList.all isBlank

end RowTypings.Text
