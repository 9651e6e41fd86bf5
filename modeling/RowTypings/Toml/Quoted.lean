/-!
Quoted text of TOML, of four kinds: basic with escapes and literal without, each on one line or on
several. A reader takes the text behind the opening quotes and gives what remains behind the closing
ones. Readers run on a count of steps, for which the length of the text is enough.
-/

namespace RowTypings.Toml

/-- The characters that may stand for themselves somewhere: no control characters but the tab. -/
def isPlainChar (c : Char) : Bool := c == '\t' || (' ' ≤ c && c != '\x7f')

def isBlankChar (c : Char) : Bool := c == ' ' || c == '\t'

def skipBlanks (cs : List Char) : List Char := cs.dropWhile isBlankChar

/-- The text behind a line break, if there is one. -/
def behindBreak? : List Char → Option (List Char)
  | '\n' :: cs => some cs
  | '\r' :: '\n' :: cs => some cs
  | _ => none

/-- Skips blanks and line breaks. -/
def skipLines : Nat → List Char → List Char
  | 0, cs => cs
  | steps + 1, cs =>
    let cs := skipBlanks cs
    match behindBreak? cs with
    | some cs => skipLines steps cs
    | none => cs

/-! ### Escapes -/

def hexDigit? (c : Char) : Option Nat :=
  if c.isDigit then some (c.toNat - '0'.toNat)
  else if 'a' ≤ c && c ≤ 'f' then some (c.toNat - 'a'.toNat + 10)
  else if 'A' ≤ c && c ≤ 'F' then some (c.toNat - 'A'.toNat + 10)
  else none

/-- The character whose code has exactly `n` digits; surrogates are no characters. -/
def readCode (n : Nat) (cs : List Char) : Option (Char × List Char) := do
  let digits ← (cs.take n).mapM hexDigit?
  let code := digits.foldl (fun v d => v * 16 + d) 0
  if digits.length == n && code.isValidChar then some (Char.ofNat code, cs.drop n) else none

/-- An escape behind its backslash. -/
def readEscape : List Char → Option (Char × List Char)
  | 'b' :: cs => some ('\x08', cs)
  | 't' :: cs => some ('\t', cs)
  | 'n' :: cs => some ('\n', cs)
  | 'f' :: cs => some ('\x0c', cs)
  | 'r' :: cs => some ('\r', cs)
  | '"' :: cs => some ('"', cs)
  | '\\' :: cs => some ('\\', cs)
  | 'u' :: cs => readCode 4 cs
  | 'U' :: cs => readCode 8 cs
  | _ => none

def push (c : Char) : Option (List Char × List Char) → Option (List Char × List Char)
  | some (text, rest) => some (c :: text, rest)
  | none => none

/-! ### One line -/

def readBasic : Nat → List Char → Option (List Char × List Char)
  | 0, _ => none
  | steps + 1, cs =>
    match cs with
    | [] => none
    | '"' :: rest => some ([], rest)
    | '\\' :: rest => (readEscape rest).bind fun (c, rest) => push c (readBasic steps rest)
    | c :: rest => if isPlainChar c then push c (readBasic steps rest) else none

def readLiteral : List Char → Option (List Char × List Char)
  | [] => none
  | c :: rest =>
    if c == '\'' then some ([], rest)
    else if isPlainChar c then push c (readLiteral rest)
    else none

/-! ### Several lines -/

/-- The rest behind three quotes: one or two more quotes are the end of the text itself. -/
def closeBlock (quote : Char) : List Char → List Char × List Char
  | a :: b :: rest =>
    if a == quote then if b == quote then ([a, b], rest) else ([a], b :: rest)
    else ([], a :: b :: rest)
  | [a] => if a == quote then ([a], []) else ([], [a])
  | [] => ([], [])

def readBasicBlock : Nat → List Char → Option (List Char × List Char)
  | 0, _ => none
  | steps + 1, cs =>
    match cs with
    | [] => none
    | '"' :: '"' :: '"' :: rest => some (closeBlock '"' rest)
    | '\\' :: rest =>
      match behindBreak? (skipBlanks rest) with
      | some rest => readBasicBlock steps (skipLines rest.length rest)
      | none => (readEscape rest).bind fun (c, rest) => push c (readBasicBlock steps rest)
    | c :: rest =>
      match behindBreak? cs with
      | some rest => push '\n' (readBasicBlock steps rest)
      | none => if isPlainChar c then push c (readBasicBlock steps rest) else none

def readLiteralBlock : Nat → List Char → Option (List Char × List Char)
  | 0, _ => none
  | steps + 1, cs =>
    match cs with
    | [] => none
    | '\'' :: '\'' :: '\'' :: rest => some (closeBlock '\'' rest)
    | c :: rest =>
      match behindBreak? cs with
      | some rest => push '\n' (readLiteralBlock steps rest)
      | none => if isPlainChar c then push c (readLiteralBlock steps rest) else none

/-- The text of a block without a line break at its very start. -/
def blockStart (cs : List Char) : List Char := (behindBreak? cs).getD cs

/-- Quoted text of any kind, from its first quote. -/
def readQuoted (cs : List Char) : Option (List Char × List Char) :=
  match cs with
  | '"' :: '"' :: '"' :: rest => readBasicBlock cs.length (blockStart rest)
  | '\'' :: '\'' :: '\'' :: rest => readLiteralBlock cs.length (blockStart rest)
  | cs => readQuotedLine cs
where
  readQuotedLine : List Char → Option (List Char × List Char)
  | '"' :: rest => readBasic (rest.length + 1) rest
  | '\'' :: rest => readLiteral rest
  | _ => none

end RowTypings.Toml
