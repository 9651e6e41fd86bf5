/-!
Delimited text. A record ends at a line break outside quotes, and line breaks in front of a record
are skipped. A quote at the start of a field opens a quoted part, in which a quote is written twice;
what follows the closing quote belongs to the field as it stands.
-/

namespace RowTypings.Csv

def isLineEnd (c : Char) : Bool := c == '\r' || c == '\n'

/-- A place in a text: the line it is on, counted from one, and the bytes before it. -/
structure Place where
  line : Nat
  byte : Nat
  deriving DecidableEq

/-- The place behind `c`. -/
def Place.step (p : Place) (c : Char) : Place where
  line := if c == '\n' then p.line + 1 else p.line
  byte := p.byte + c.utf8Size

/-- How a character is read: at the start of a field, inside one, inside quotes, or behind a quote
that may have closed them. -/
inductive Mode where
  | start
  | field
  | quotes
  | behindQuote
  deriving DecidableEq

/-- The fields of a record and the characters of the field being read, both in reverse. -/
structure Draft where
  done : List String := []
  current : List Char := []

def Draft.add (d : Draft) (c : Char) : Draft := { d with current := c :: d.current }

def Draft.close (d : Draft) : Draft where
  done := String.ofList d.current.reverse :: d.done

/-- A record, and the text behind it with its place. -/
structure Parsed where
  fields : List String
  place : Place
  rest : List Char

def Draft.finish (d : Draft) (place : Place) (rest : List Char) : Parsed :=
  ⟨d.close.done.reverse, place, rest⟩

/-- Reads on to the end of the record. -/
def readFields (delimiter : Char) (mode : Mode) (d : Draft) (place : Place) : List Char → Parsed
  | [] => d.finish place []
  | c :: cs =>
    let next := place.step c
    if c == '"' && mode == .start then readFields delimiter .quotes d next cs
    else if c == '"' && mode == .quotes then readFields delimiter .behindQuote d next cs
    else if c == '"' && mode == .behindQuote then readFields delimiter .quotes (d.add c) next cs
    else if mode == .quotes then readFields delimiter .quotes (d.add c) next cs
    else if c == delimiter then readFields delimiter .start d.close next cs
    else if isLineEnd c then d.finish next cs
    else readFields delimiter .field (d.add c) next cs

def skipLineEnds (place : Place) : List Char → Place × List Char
  | [] => (place, [])
  | c :: cs => if isLineEnd c then skipLineEnds (place.step c) cs else (place, c :: cs)

/-- The next record, unless nothing but line breaks is left. -/
def readRecord (delimiter : Char) (place : Place) (cs : List Char) : Option Parsed :=
  match skipLineEnds place cs with
  | (_, []) => none
  | (place, c :: cs) => some (readFields delimiter .start {} place (c :: cs))

/-- A record with its number, the first being zero, and the place where it was looked for: the line
breaks that it skips come behind that place. -/
structure Record where
  number : Nat
  place : Place
  fields : List String

/-- The records of a text, numbered from `number`. -/
def readRecords (delimiter : Char) : Nat → Nat → Place → List Char → List Record
  | 0, _, _, _ => []
  | steps + 1, number, place, cs =>
    match readRecord delimiter place cs with
    | none => []
    | some r => ⟨number, place, r.fields⟩ :: readRecords delimiter steps (number + 1) r.place r.rest

/-- All records of a text. A byte order mark at its start is no part of the first one. -/
def records (delimiter : Char) (text : String) : List Record :=
  let cs := text.toList
  match cs with
  | '\uFEFF' :: rest => readRecords delimiter cs.length 0 ⟨1, 3⟩ rest
  | cs => readRecords delimiter cs.length 0 ⟨1, 0⟩ cs

/-- A record that has another number of fields than the header. -/
structure LengthMismatch where
  number : Nat
  place : Place
  found : Nat
  expected : Nat

def LengthMismatch.message (m : LengthMismatch) : String :=
  s!"CSV error: record {m.number} (line: {m.place.line}, byte: {m.place.byte}): " ++
    s!"found record with {m.found} fields, but the previous record has {m.expected} fields"

end RowTypings.Csv
