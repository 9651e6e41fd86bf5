import RowTypings.Text.Alphabetic
import RowTypings.Text.CaseMapping
import RowTypings.Text.GraphemeExtend
import RowTypings.Text.LetterCase
import RowTypings.Text.Numeric
import RowTypings.Text.Unprintable

/-!
Classes of characters and their case mappings. ASCII is decided by core's own predicates; every
other character is looked up in the table of the property.
-/

namespace RowTypings.Text

def isAscii (c : Char) : Bool := c.toNat < 128

def isAlphabetic (c : Char) : Bool :=
  if isAscii c then c.isAlpha else alphabeticRanges.contains c

def isNumeric (c : Char) : Bool :=
  if isAscii c then c.isDigit else numericRanges.contains c

def isAlphanumeric (c : Char) : Bool := isAlphabetic c || isNumeric c

def isLowercase (c : Char) : Bool :=
  if isAscii c then c.isLower else lowercaseStrides.contains c

def isUppercase (c : Char) : Bool :=
  if isAscii c then c.isUpper else uppercaseStrides.contains c

/-- The uppercase form of one character, which may be several characters. -/
def uppercase (c : Char) : List Char :=
  if isAscii c then [c.toUpper] else convertCase uppercaseExpansions uppercaseShifts c

/-- The lowercase form of one character, which may be several characters. -/
def lowercase (c : Char) : List Char :=
  if isAscii c then [c.toLower] else convertCase lowercaseExpansions lowercaseShifts c

/-- Unicode white space. -/
def isBlank (c : Char) : Bool :=
  let n := c.toNat
  (9 ≤ n && n ≤ 13) || n == 32 || n == 0x85 || n == 0xA0 || n == 0x1680 ||
    (0x2000 ≤ n && n ≤ 0x200A) || n == 0x2028 || n == 0x2029 || n == 0x202F || n == 0x205F ||
    n == 0x3000

/-- The control characters, C0 and C1. -/
def isControl (c : Char) : Bool :=
  c.toNat < 32 || (127 ≤ c.toNat && c.toNat < 160)

/-- A character after which a reader of program text starts a new line. -/
def isLineBreak (c : Char) : Bool :=
  c == '\n' || c == '\r' || c.toNat == 0x2028 || c.toNat == 0x2029

def isGraphemeExtend (c : Char) : Bool :=
  !isAscii c && graphemeExtendRanges.contains c

def isPrintable (c : Char) : Bool :=
  if isAscii c then 32 ≤ c.toNat && c.toNat < 127 else !unprintableRanges.contains c

end RowTypings.Text
