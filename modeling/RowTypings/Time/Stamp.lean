import RowTypings.Text.Trim
import RowTypings.Time.Instant

/-!
Timestamps in text. Three layouts are recognised: a date, a date with a time of day, and the
layout of mail headers. A text is a timestamp when it has one of the layouts and the reading it
gives is possible; a time without an offset is taken as UTC.
-/

namespace RowTypings.Time

inductive Layout where
  | date
  | dateTime
  | mail
  deriving DecidableEq

/-- Exactly `n` ASCII digits. -/
def readDigits (n : Nat) (cs : List Char) : Option (Nat × List Char) :=
  let digits := cs.take n
  if digits.length == n && digits.all Char.isDigit then
    some (digits.foldl (fun v c => v * 10 + (c.toNat - '0'.toNat)) 0, cs.drop n)
  else none

def readChar (c : Char) : List Char → Option (List Char)
  | d :: cs => if d == c then some cs else none
  | [] => none

/-- `YYYY-MM-DD` -/
def readDate (cs : List Char) : Option ((Nat × Nat × Nat) × List Char) := do
  let (year, cs) ← readDigits 4 cs
  let cs ← readChar '-' cs
  let (month, cs) ← readDigits 2 cs
  let cs ← readChar '-' cs
  let (day, cs) ← readDigits 2 cs
  return ((year, month, day), cs)

/-- The nanoseconds a fraction stands for; digits past the ninth are dropped. -/
def nanosOfFraction (digits : List Char) : Nat :=
  let kept := digits.take 9
  kept.foldl (fun v c => v * 10 + (c.toNat - '0'.toNat)) 0 * Nat.pow 10 (9 - kept.length)

/-- A fraction, if a point follows; the point needs a digit. -/
def readFraction : List Char → Option (Nat × List Char)
  | '.' :: cs =>
    let digits := cs.takeWhile Char.isDigit
    if digits.isEmpty then none else some (nanosOfFraction digits, cs.dropWhile Char.isDigit)
  | cs => some (0, cs)

/-- The hours and minutes of an offset, in seconds; minutes stop at 59. -/
def offsetSeconds (hours minutes : Nat) : Option Int :=
  if minutes < 60 then some (hours * 3600 + minutes * 60) else none

/-- `+hhmm` or `-hhmm`, up to the end; a colon may stand between the two where `colon` allows. -/
def readOffset (colon : Bool) (cs : List Char) : Option Int := do
  let (sign, cs) ←
    match cs with
    | '+' :: cs => some ((1 : Int), cs)
    | '-' :: cs => some ((-1 : Int), cs)
    | _ => none
  let (hours, cs) ← readDigits 2 cs
  let cs :=
    match cs with
    | ':' :: rest => if colon then rest else cs
    | _ => cs
  let (minutes, cs) ← readDigits 2 cs
  let seconds ← offsetSeconds hours minutes
  if cs.isEmpty then some (sign * seconds) else none

/-- What may follow the time of an ISO timestamp: nothing, `Z`, or an offset. -/
def readZone : List Char → Option Int
  | [] => some 0
  | ['Z'] => some 0
  | cs => readOffset true cs

def dateReading? (cs : List Char) : Option ClockReading := do
  let ((year, month, day), cs) ← readDate cs
  if cs.isEmpty then
    some { year, month, day, hour := 0, minute := 0, second := 0, nanos := 0, offset := 0 }
  else none

/-- `YYYY-MM-DDThh:mm:ss`, or with a space for the `T`, then a fraction and a zone if any. -/
def dateTimeReading? (cs : List Char) : Option ClockReading := do
  let ((year, month, day), cs) ← readDate cs
  let cs ←
    match cs with
    | 'T' :: cs => some cs
    | ' ' :: cs => some cs
    | _ => none
  let (hour, cs) ← readDigits 2 cs
  let cs ← readChar ':' cs
  let (minute, cs) ← readDigits 2 cs
  let cs ← readChar ':' cs
  let (second, cs) ← readDigits 2 cs
  let (nanos, cs) ← readFraction cs
  let offset ← readZone cs
  return { year, month, day, hour, minute, second, nanos, offset }

/-! ### The layout of mail headers -/

def weekdayNames : List String := ["Sun", "Mon", "Tue", "Wed", "Thu", "Fri", "Sat"]

def monthNames : List String :=
  ["Jan", "Feb", "Mar", "Apr", "May", "Jun", "Jul", "Aug", "Sep", "Oct", "Nov", "Dec"]

/-- `Tue, ` in front of the day, if there is a comma where it belongs. -/
def readWeekday (cs : List Char) : Option (Option Nat × List Char) :=
  match cs with
  | a :: b :: c :: ',' :: ' ' :: rest =>
    (weekdayNames.idxOf? (String.ofList [a, b, c])).map fun i => (some i, rest)
  | cs => some (none, cs)

/-- One or two digits and a space. -/
def readDay (cs : List Char) : Option (Nat × List Char) :=
  let n := if (cs.drop 1).head? == some ' ' then 1 else 2
  do
    let (day, cs) ← readDigits n cs
    let cs ← readChar ' ' cs
    return (day, cs)

def readMonth (cs : List Char) : Option (Nat × List Char) :=
  (monthNames.idxOf? (String.ofList (cs.take 3))).map fun i => (i + 1, cs.drop 3)

/-- The zones that mail headers may name, in hours from UTC. A single letter is a military zone,
read as UTC; the letter J is none. -/
def namedZone? (name : String) : Option Int :=
  match name with
  | "UT" | "GMT" => some 0
  | "EDT" => some (-4)
  | "EST" | "CDT" => some (-5)
  | "CST" | "MDT" => some (-6)
  | "MST" | "PDT" => some (-7)
  | "PST" => some (-8)
  | _ =>
    match name.toList with
    | [c] => if c.isUpper && c != 'J' then some 0 else none
    | _ => none

def readMailZone (cs : List Char) : Option Int :=
  match readOffset false cs with
  | some offset => some offset
  | none => (namedZone? (String.ofList cs)).map (· * 3600)

/-- The seconds of a mail header, which may be left out. -/
def readMailSeconds : List Char → Option (Nat × List Char)
  | ':' :: cs => readDigits 2 cs
  | cs => some (0, cs)

/-- `Tue, 1 Jul 2003 10:52:37 +0200`. A weekday that is named must be the day's own. -/
def mailReading? (cs : List Char) : Option ClockReading := do
  let (named, cs) ← readWeekday cs
  let (day, cs) ← readDay cs
  let (month, cs) ← readMonth cs
  let cs ← readChar ' ' cs
  let (year, cs) ← readDigits 4 cs
  let cs ← readChar ' ' cs
  let (hour, cs) ← readDigits 2 cs
  let cs ← readChar ':' cs
  let (minute, cs) ← readDigits 2 cs
  let (second, cs) ← readMailSeconds cs
  let cs ← readChar ' ' cs
  let offset ← readMailZone cs
  if named.all (· == weekday year month day) then
    some { year, month, day, hour, minute, second, nanos := 0, offset }
  else none

/-! ### Recognition -/

def Layout.reading? : Layout → List Char → Option ClockReading
  | date => dateReading?
  | dateTime => dateTimeReading?
  | mail => mailReading?

/-- The layout of a trimmed text and the instant it denotes. No text has two layouts. -/
def recognize (cs : List Char) : Option (Layout × Instant) :=
  [Layout.dateTime, Layout.date, Layout.mail].findSome? fun layout =>
    (layout.reading? cs).bind fun r => r.instant?.map fun t => (layout, t)

/-- The layout of a text, if it is a timestamp. White space around it does not count. -/
def layout? (s : String) : Option Layout :=
  (recognize (Text.trim s).toList).map Prod.fst

/-- The instant a text denotes, if it is a timestamp. -/
def instant? (s : String) : Option Instant :=
  (recognize (Text.trim s).toList).map Prod.snd

end RowTypings.Time
