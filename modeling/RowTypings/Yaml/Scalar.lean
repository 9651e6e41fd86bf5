import RowTypings.Yaml.Resolution

/-!
Text as a YAML scalar. It stands plain where nothing in it means something to YAML, otherwise in
single quotes, and in double quotes with escapes where single quotes cannot hold it; text with line
feeds becomes a literal block where a block can hold it.
-/

namespace RowTypings.Yaml

inductive ScalarStyle where
  | plain
  | singleQuoted
  | doubleQuoted
  | literalBlock
  deriving DecidableEq

/-! ### Characters -/

def isBreak (c : Char) : Bool :=
  c == '\n' || c == '\r' || c == '\u0085' || c == '\u2028' || c == '\u2029'

/-- The characters that may stand for themselves. -/
def isPrintable (c : Char) : Bool :=
  c == '\n' || (' ' ≤ c && c ≤ '~') ||
    ('\u00a0' ≤ c && c != '\ufeff' && c != '\ufffe' && c != '\uffff')

def isBlank (c : Char) : Bool := c == ' ' || c == '\t' || c == '\x00' || isBreak c

/-- The characters that no plain scalar starts with. -/
def opensOther (c : Char) : Bool := "#,[]\x7b\x7d&*!|>'\"%@\x60".toList.contains c

/-- Whether no text follows, or text that starts with a blank. -/
def blankFollows : List Char → Bool
  | [] => true
  | c :: _ => isBlank c

/-! ### Shapes of a text -/

/-- A colon before a blank, or a hash behind one; `before` tells whether a blank came before. -/
def hasMark (before : Bool) : List Char → Bool
  | [] => false
  | c :: cs =>
    (c == ':' && blankFollows cs) || (c == '#' && before) || hasMark (isBlank c) cs

/-- Whether the start of a text means something at the start of a line. -/
def opensWithMark : List Char → Bool
  | [] => false
  | c :: cs =>
    opensOther c || ((c == '?' || c == '-') && blankFollows cs) ||
      "---".toList.isPrefixOf (c :: cs) || "...".toList.isPrefixOf (c :: cs)

/-- Whether somewhere a character with `p` stands right before one with `q`. -/
def hasPair (p q : Char → Bool) : List Char → Bool
  | a :: b :: cs => (p a && q b) || hasPair p q (b :: cs)
  | _ => false

def isSpaceChar (c : Char) : Bool := c == ' '

def spaceBeforeBreak (cs : List Char) : Bool := hasPair isSpaceChar isBreak cs

def breakBeforeSpace (cs : List Char) : Bool := hasPair isBreak isSpaceChar cs

def plainAllowed (cs : List Char) : Bool :=
  !cs.any isBreak && cs.all isPrintable && cs.head? != some ' ' && cs.getLast? != some ' ' &&
    !opensWithMark cs && !hasMark true cs

def singleQuotesAllowed (cs : List Char) : Bool :=
  cs.all isPrintable && !spaceBeforeBreak cs && !breakBeforeSpace cs

def blockAllowed (cs : List Char) : Bool :=
  cs.all isPrintable && !spaceBeforeBreak cs && cs.getLast? != some ' '

def styleOf (s : String) : ScalarStyle :=
  let cs := s.toList
  if cs.contains '\n' then if blockAllowed cs then .literalBlock else .doubleQuoted
  else if !looksTyped s && plainAllowed cs then .plain
  else if singleQuotesAllowed cs then .singleQuoted
  else .doubleQuoted

/-! ### Writing -/

def margin (indent : Nat) : List Char := List.replicate indent ' '

/-- The text between single quotes. A quote is written twice; behind a break the next line starts
at the margin. -/
def singleQuotedBody (indent : Nat) (atBreak : Bool) : List Char → List Char
  | [] => if atBreak then margin indent else []
  | c :: cs =>
    if isBreak c then c :: singleQuotedBody indent true cs
    else
      (if atBreak then margin indent else []) ++ (if c == '\'' then ['\'', '\''] else [c]) ++
        singleQuotedBody indent false cs

def upperHexDigits (width n : Nat) : List Char :=
  (List.range width).reverse.map fun i => (Nat.digitChar (n / Nat.pow 16 i % 16)).toUpper

/-- The character behind the backslash, for those that have an escape of their own. -/
def shortEscape? (c : Char) : Option Char :=
  [('\x00', '0'), ('\x07', 'a'), ('\x08', 'b'), ('\t', 't'), ('\n', 'n'), ('\x0b', 'v'),
    ('\x0c', 'f'), ('\r', 'r'), ('\x1b', 'e'), ('"', '"'), ('\\', '\\'), ('\u0085', 'N'),
    ('\u2028', 'L'), ('\u2029', 'P')].lookup c

def escape (c : Char) : List Char :=
  match shortEscape? c with
  | some e => ['\\', e]
  | none =>
    if isPrintable c then [c]
    else if c.toNat < 256 then '\\' :: 'x' :: upperHexDigits 2 c.toNat
    else '\\' :: 'u' :: upperHexDigits 4 c.toNat

/-- The lines of a block, each that is not empty at the margin. -/
def blockBody (indent : Nat) (atBreak : Bool) : List Char → List Char
  | [] => []
  | c :: cs =>
    if isBreak c then c :: blockBody indent true cs
    else (if atBreak then margin indent else []) ++ c :: blockBody indent false cs

/-- What tells the end of a block: whether its text ends in no break, in one, or in more. -/
def chompingMark (cs : List Char) : List Char :=
  match cs.reverse with
  | [] => ['-']
  | [last] => if isBreak last then ['+'] else ['-']
  | last :: before :: _ =>
    if !isBreak last then ['-'] else if isBreak before then ['+'] else []

/-- The head of a block; the margin is told where the text itself starts with a blank. -/
def blockHead (cs : List Char) : List Char :=
  '|' :: (if cs.head?.any fun c => c == ' ' || isBreak c then ['2'] else []) ++ chompingMark cs

/-- A text as a scalar whose further lines start at the margin. -/
def writeText (indent : Nat) (s : String) : String :=
  let cs := s.toList
  String.ofList <|
    match styleOf s with
    | .plain => cs
    | .singleQuoted => '\'' :: singleQuotedBody indent false cs ++ ['\'']
    | .doubleQuoted => '"' :: cs.flatMap escape ++ ['"']
    | .literalBlock => blockHead cs ++ '\n' :: blockBody indent true cs

end RowTypings.Yaml
