import RowTypings.Proofs.Time.Stamp

/-!
Texts of the date-time layout, told by their parts. The reader reads each part by itself: what it
makes of such a text is put together from the numbers of the digits and the offset of the zone, and
no other layout has the text. Digits of another script than ASCII have the layout and no number.
-/

namespace RowTypings.Time

/-! ### Texts of the layout -/

/-- What stands behind the time of day. -/
inductive Zone where
  | none
  | utc
  | offset (negative colon : Bool) (hours minutes : List Char)

def Zone.chars : Zone → List Char
  | none => []
  | utc => ['Z']
  | offset negative colon hours minutes =>
    (if negative then '-' else '+') :: (hours ++ ((if colon then [':'] else []) ++ minutes))

/-- The parts of a text of the date-time layout, without the sign between date and time. -/
structure Stamp where
  year : List Char
  month : List Char
  day : List Char
  hour : List Char
  minute : List Char
  second : List Char
  fraction : List Char
  zone : Zone

namespace Stamp

def fractionChars (s : Stamp) : List Char := if s.fraction.isEmpty then [] else '.' :: s.fraction

/-- What follows the seconds. -/
def tailChars (s : Stamp) : List Char := s.fractionChars ++ s.zone.chars

def timeChars (s : Stamp) : List Char :=
  s.hour ++ ':' :: (s.minute ++ ':' :: (s.second ++ s.tailChars))

def dateChars (s : Stamp) : List Char := s.year ++ '-' :: (s.month ++ '-' :: s.day)

def chars (separator : Char) (s : Stamp) : List Char := s.dateChars ++ separator :: s.timeChars

def text (separator : Char) (s : Stamp) : String := String.ofList (s.chars separator)

end Stamp

/-- So many digits, of any script. -/
def Digits (n : Nat) (ds : List Char) : Prop :=
  ds.length = n ∧ ∀ c ∈ ds, Text.isNumeric c = true

instance (n : Nat) (ds : List Char) : Decidable (Digits n ds) :=
  decidable_of_iff (ds.length = n ∧ ds.all Text.isNumeric = true)
    (and_congr_right fun _ => List.all_eq_true)

def Zone.WellFormed : Zone → Prop
  | none => True
  | utc => True
  | offset _ _ hours minutes => Digits 2 hours ∧ Digits 2 minutes

/-- The parts have the digits that the layout asks for. A fraction may have any number of them. -/
structure Stamp.WellFormed (s : Stamp) : Prop where
  year : Digits 4 s.year
  month : Digits 2 s.month
  day : Digits 2 s.day
  hour : Digits 2 s.hour
  minute : Digits 2 s.minute
  second : Digits 2 s.second
  fraction : ∀ c ∈ s.fraction, Text.isNumeric c = true
  zone : s.zone.WellFormed

/-! ### The parts are read by themselves -/

/-- The number of digits that are all ASCII. -/
def number? (ds : List Char) : Option Nat :=
  if ds.all Char.isDigit then some (ds.foldl (fun v c => v * 10 + (c.toNat - '0'.toNat)) 0)
  else none

def nanos? (ds : List Char) : Option Nat :=
  if ds.all Char.isDigit then some (nanosOfFraction ds) else none

def Zone.seconds? : Zone → Option Int
  | none => some 0
  | utc => some 0
  | offset negative _ hours minutes => do
    let h ← number? hours
    let m ← number? minutes
    let seconds ← offsetSeconds h m
    return (if negative then -1 else 1) * seconds

/-- The reading of a clock in UTC. -/
def Stamp.clock? (s : Stamp) : Option ClockReading := do
  let year ← number? s.year
  let month ← number? s.month
  let day ← number? s.day
  let hour ← number? s.hour
  let minute ← number? s.minute
  let second ← number? s.second
  let nanos ← nanos? s.fraction
  return { year, month, day, hour, minute, second, nanos, offset := 0 }

section Parts

variable {ds : List Char} {n : Nat}

theorem bind_readDigits {α : Type} (h : ds.length = n) (rest : List Char)
    (f : Nat × List Char → Option α) :
    (readDigits n (ds ++ rest)).bind f = (number? ds).bind fun v => f (v, rest) := by
  have htake : (ds ++ rest).take n = ds := by rw [← h, List.take_left]
  have hdrop : (ds ++ rest).drop n = rest := by rw [← h, List.drop_left]
  simp only [readDigits, htake, hdrop, h, number?, beq_self_eq_true, Bool.true_and]
  split <;> rfl

theorem bind_readChar {α : Type} (c : Char) (cs : List Char) (f : List Char → Option α) :
    (readChar c (c :: cs)).bind f = f cs := by
  simp [readChar]

/-- A digit is none of the signs between the parts. -/
theorem ne_of_isNumeric {c d : Char} (hc : Text.isNumeric c = true)
    (hd : Text.isNumeric d = false) : c ≠ d :=
  ne_of_beq_false (Text.beq_eq_false hc hd)

theorem bind_readDate {α : Type} {separator : Char} {s : Stamp} (hs : s.WellFormed)
    (f : (Nat × Nat × Nat) × List Char → Option α) :
    (readDate (s.chars separator)).bind f =
      (number? s.year).bind fun year => (number? s.month).bind fun month =>
        (number? s.day).bind fun day => f ((year, month, day), separator :: s.timeChars) := by
  simp only [readDate, Stamp.chars, Stamp.dateChars, List.append_assoc, List.cons_append,
    Option.bind_eq_bind, Option.bind_assoc, bind_readDigits hs.year.1,
    bind_readDigits hs.month.1, bind_readDigits hs.day.1, bind_readChar, Option.pure_def,
    Option.bind_some]

/-! ### Zones -/

theorem bind_readDigits_all {α : Type} (h : ds.length = n) (f : Nat × List Char → Option α) :
    (readDigits n ds).bind f = (number? ds).bind fun v => f (v, []) := by
  have hread := bind_readDigits h [] f
  rwa [List.append_nil] at hread

def skipColon (cs : List Char) : List Char :=
  match cs with
  | ':' :: rest => rest
  | _ => cs

theorem skipColon_colon (colon : Bool) (h : ∀ c ∈ ds, Text.isNumeric c = true) :
    skipColon ((if colon then [':'] else []) ++ ds) = ds := by
  cases colon with
  | true => rfl
  | false =>
      change skipColon ds = ds
      unfold skipColon
      split
      · exact absurd rfl (ne_of_isNumeric (h ':' List.mem_cons_self) (by decide))
      · rfl

theorem readOffset_sign (negative : Bool) (cs : List Char) :
    readOffset true ((if negative then '-' else '+') :: cs) =
      (readDigits 2 cs).bind fun (hours, cs) =>
        (readDigits 2 (skipColon cs)).bind fun (minutes, cs) =>
          (offsetSeconds hours minutes).bind fun seconds =>
            if cs.isEmpty then some ((if negative then -1 else 1) * seconds) else none := by
  cases negative with
  | true => rfl
  | false => rfl

theorem readOffset_chars {negative colon : Bool} {hours minutes : List Char}
    (hhours : Digits 2 hours) (hminutes : Digits 2 minutes) :
    readOffset true (Zone.offset negative colon hours minutes).chars =
      (Zone.offset negative colon hours minutes).seconds? := by
  rw [Zone.chars, readOffset_sign, bind_readDigits hhours.1]
  dsimp only
  rw [skipColon_colon colon hminutes.2]
  simp only [bind_readDigits_all hminutes.1]
  rfl

theorem readZone_chars {z : Zone} (hz : z.WellFormed) : readZone z.chars = z.seconds? := by
  cases z with
  | none => rfl
  | utc => rfl
  | offset negative colon hours minutes =>
      rw [← readOffset_chars hz.1 hz.2]
      cases negative with
      | true => rfl
      | false => rfl

/-- A reader of zones that takes no digit for one. -/
def ReadsZones (zone : List Char → Option Int) : Prop :=
  ∀ c cs, Text.isNumeric c = true → zone (c :: cs) = none

theorem readsZones_readOffset : ReadsZones (readOffset true) := by
  intro c cs hc
  have hplus : c ≠ '+' := ne_of_isNumeric hc (by decide)
  have hminus : c ≠ '-' := ne_of_isNumeric hc (by decide)
  simp [readOffset, hplus, hminus]

theorem readsZones_readZone : ReadsZones readZone := by
  intro c cs hc
  have hutc : c ≠ 'Z' := ne_of_isNumeric hc (by decide)
  simp [readZone, hutc, readsZones_readOffset c cs hc]

/-! ### Fractions -/

theorem Zone.ends_chars {p : Char → Bool} (hutc : p 'Z' = false) (hplus : p '+' = false)
    (hminus : p '-' = false) (z : Zone) : Text.Ends p z.chars := by
  cases z with
  | none => exact Text.ends_nil _
  | utc => exact Text.ends_cons hutc
  | offset negative colon hours minutes =>
      cases negative with
      | true => exact Text.ends_cons hminus
      | false => exact Text.ends_cons hplus

theorem readFraction_of_ends {cs : List Char} (h : Text.Ends (· == '.') cs) :
    readFraction cs = some (0, cs) := by
  unfold readFraction
  split
  · cases h '.' rfl
  · rfl

/-- A fraction is read up to its end, or else what is left of it is not read as a zone. -/
theorem bind_readFraction {α : Type} {s : Stamp} (hs : s.WellFormed)
    {zone : List Char → Option Int} (hzone : ReadsZones zone) (f : Nat → Int → Option α) :
    ((readFraction s.tailChars).bind fun (nanos, cs) => (zone cs).bind (f nanos)) =
      (nanos? s.fraction).bind fun nanos => (zone s.zone.chars).bind (f nanos) := by
  have hends : Text.Ends Char.isDigit s.zone.chars := s.zone.ends_chars rfl rfl rfl
  rw [Stamp.tailChars, Stamp.fractionChars]
  split
  · rename_i hnil
    have hzero : nanos? [] = some 0 := rfl
    rw [List.nil_append, readFraction_of_ends (s.zone.ends_chars rfl rfl rfl),
      List.isEmpty_iff.mp hnil, hzero]
    rfl
  · rename_i hne
    rw [List.cons_append, readFraction, Text.takeWhile_append_of_ends hends,
      Text.dropWhile_append_of_ends hends, nanos?]
    cases hrest : s.fraction.dropWhile Char.isDigit with
    | nil =>
        have hall : ∀ c ∈ s.fraction, c.isDigit = true := List.dropWhile_eq_nil_iff.mp hrest
        rw [if_pos (List.all_eq_true.mpr hall), List.takeWhile_eq_self_iff.mpr hall, if_neg hne]
        rfl
    | cons c more =>
        -- the fraction stops at a digit of another script
        have hc : Text.isNumeric c = true :=
          hs.fraction c ((List.dropWhile_suffix _).subset (hrest ▸ List.mem_cons_self))
        have hall : ¬ s.fraction.all Char.isDigit = true := by
          intro hall
          rw [List.dropWhile_eq_nil_iff.mpr (List.all_eq_true.mp hall)] at hrest
          cases hrest
        rw [if_neg hall]
        split
        · rfl
        · rw [Option.bind_some, List.cons_append]
          dsimp only
          rw [hzone c _ hc]
          rfl

end Parts

/-! ### The whole text -/

/-- The reading of the clock at the offset of a zone. -/
def Stamp.readingAt (s : Stamp) (offset? : Option Int) : Option ClockReading :=
  s.clock?.bind fun r => offset?.map fun offset => { r with offset }

/-- What is read behind the sign between date and time. -/
def readTime (zone : List Char → Option Int) (date : Nat × Nat × Nat) (cs : List Char) :
    Option ClockReading := do
  let (hour, cs) ← readDigits 2 cs
  let cs ← readChar ':' cs
  let (minute, cs) ← readDigits 2 cs
  let cs ← readChar ':' cs
  let (second, cs) ← readDigits 2 cs
  let (nanos, cs) ← readFraction cs
  let offset ← zone cs
  return { year := date.1, month := date.2.1, day := date.2.2, hour, minute, second, nanos, offset }

theorem bind_readTime (separator : Char) {s : Stamp} (hs : s.WellFormed)
    {zone : List Char → Option Int} (hzone : ReadsZones zone) :
    ((readDate (s.chars separator)).bind fun (date, cs) => readTime zone date (cs.drop 1)) =
      s.readingAt (zone s.zone.chars) := by
  rw [bind_readDate hs]
  simp only [readTime, Option.bind_eq_bind, List.drop_one, List.tail_cons, Stamp.timeChars,
    bind_readDigits hs.hour.1, bind_readDigits hs.minute.1, bind_readDigits hs.second.1,
    bind_readChar]
  simp only [Stamp.readingAt, Stamp.clock?, Option.bind_eq_bind, Option.bind_assoc,
    Option.pure_def, Option.bind_some, Option.map_eq_bind]
  refine Option.bind_congr fun year _ => Option.bind_congr fun month _ =>
    Option.bind_congr fun day _ => Option.bind_congr fun hour _ =>
    Option.bind_congr fun minute _ => Option.bind_congr fun second _ => ?_
  exact bind_readFraction hs hzone fun nanos offset =>
    some (ClockReading.mk year month day hour minute second nanos offset)

theorem dateTimeReading?_chars {separator : Char} {s : Stamp} (hs : s.WellFormed)
    (hseparator : separator = 'T' ∨ separator = ' ') :
    dateTimeReading? (s.chars separator) = s.readingAt s.zone.seconds? := by
  rw [← readZone_chars hs.zone, ← bind_readTime separator hs readsZones_readZone]
  simp only [dateTimeReading?, Option.bind_eq_bind, bind_readDate hs]
  rcases hseparator with rfl | rfl
  · rfl
  · rfl

/-- The text is longer than a date. -/
theorem dateReading?_chars (separator : Char) {s : Stamp} (hs : s.WellFormed) :
    dateReading? (s.chars separator) = none := by
  change (readDate (s.chars separator)).bind _ = none
  rw [bind_readDate hs]
  simp

/-- The text has digits where mail headers have the name of a day or a space. -/
theorem mailReading?_chars (separator : Char) {s : Stamp} (hs : s.WellFormed) :
    mailReading? (s.chars separator) = none := by
  obtain ⟨y₁, y₂, y₃, y₄, hyear⟩ : ∃ y₁ y₂ y₃ y₄, s.year = [y₁, y₂, y₃, y₄] :=
    List.length_eq_four.mp hs.year.1
  have hsign (c d : Char) (hc : c ∈ s.year) (hd : Text.isNumeric d = false) : c ≠ d :=
    ne_of_isNumeric (hs.year.2 c hc) hd
  have hcomma := hsign y₄ ',' (by simp [hyear]) (by decide)
  have hspace := hsign y₂ ' ' (by simp [hyear]) (by decide)
  have hlater := hsign y₃ ' ' (by simp [hyear]) (by decide)
  have hday (rest : List Char) : readDay (y₁ :: y₂ :: y₃ :: rest) = none := by
    have hcount : ((y₁ :: y₂ :: y₃ :: rest).drop 1).head? ≠ some ' ' := by simpa using hspace
    have hchar : readChar ' ' (y₃ :: rest) = none := by simp [readChar, hlater]
    rw [readDay, beq_false_of_ne hcount]
    change (readDigits 2 ([y₁, y₂] ++ y₃ :: rest)).bind _ = none
    rw [bind_readDigits (show [y₁, y₂].length = 2 from rfl)]
    simp [hchar]
  rw [Stamp.chars, Stamp.dateChars, hyear]
  simp [mailReading?, readWeekday, hcomma, hday]

/-! ### Instants -/

theorem isBlank_eq_false_of_isNumeric {c : Char} (h : Text.isNumeric c = true) :
    Text.isBlank c = false := by
  have hranges : ∀ r ∈ Text.numericRanges, 0xA0 < r.1 ∧ (r.2 < 0x1680 ∨ 0x1680 < r.1) ∧
      (r.2 < 0x2000 ∨ 0x205F < r.1) ∧ (r.2 < 0x3000 ∨ 0x3000 < r.1) := by decide +kernel
  have hbeyond : (48 ≤ c.toNat ∧ c.toNat ≤ 57) ∨ 0xA0 < c.toNat ∧ c.toNat ≠ 0x1680 ∧
      (c.toNat < 0x2000 ∨ 0x205F < c.toNat) ∧ c.toNat ≠ 0x3000 := by
    rw [Text.isNumeric] at h
    split at h
    · exact .inl (Char.isDigit_iff_toNat.mp h)
    · obtain ⟨r, hr, hrange⟩ := List.any_eq_true.mp h
      have hgap := hranges r hr
      simp only [Bool.and_eq_true, decide_eq_true_eq] at hrange
      omega
  simp only [Text.isBlank, Bool.or_eq_false_iff, Bool.and_eq_false_iff, beq_eq_false_iff_ne,
    decide_eq_false_iff_not]
  omega

theorem Digits.isBlank_eq_false {n : Nat} {ds : List Char} (h : Digits n ds) :
    ∀ c ∈ ds, Text.isBlank c = false :=
  fun c hc => isBlank_eq_false_of_isNumeric (h.2 c hc)

section Blanks

variable {s : Stamp} (hs : s.WellFormed)
include hs

theorem isBlank_eq_false_of_mem_dateChars : ∀ c ∈ s.dateChars, Text.isBlank c = false := by
  refine List.forall_mem_append.mpr
    ⟨hs.year.isBlank_eq_false, List.forall_mem_cons.mpr ⟨by decide, ?_⟩⟩
  exact List.forall_mem_append.mpr
    ⟨hs.month.isBlank_eq_false, List.forall_mem_cons.mpr ⟨by decide, hs.day.isBlank_eq_false⟩⟩

theorem isBlank_eq_false_of_mem_tailChars : ∀ c ∈ s.tailChars, Text.isBlank c = false := by
  refine List.forall_mem_append.mpr ⟨?_, ?_⟩
  · rw [Stamp.fractionChars]
    split
    · exact List.forall_mem_nil _
    · refine List.forall_mem_cons.mpr ⟨by decide, fun c hc => ?_⟩
      exact isBlank_eq_false_of_isNumeric (hs.fraction c hc)
  · have hzone := hs.zone
    cases hz : s.zone with
    | none => exact List.forall_mem_nil _
    | utc => exact List.forall_mem_singleton.mpr (by decide)
    | offset negative colon hours minutes =>
        rw [hz] at hzone
        refine List.forall_mem_cons.mpr ⟨by cases negative <;> decide, ?_⟩
        refine List.forall_mem_append.mpr ⟨hzone.1.isBlank_eq_false, ?_⟩
        refine List.forall_mem_append.mpr ⟨?_, hzone.2.isBlank_eq_false⟩
        cases colon with
        | true => exact List.forall_mem_singleton.mpr (by decide)
        | false => exact List.forall_mem_nil _

theorem isBlank_eq_false_of_mem_timeChars : ∀ c ∈ s.timeChars, Text.isBlank c = false := by
  refine List.forall_mem_append.mpr
    ⟨hs.hour.isBlank_eq_false, List.forall_mem_cons.mpr ⟨by decide, ?_⟩⟩
  refine List.forall_mem_append.mpr
    ⟨hs.minute.isBlank_eq_false, List.forall_mem_cons.mpr ⟨by decide, ?_⟩⟩
  exact List.forall_mem_append.mpr
    ⟨hs.second.isBlank_eq_false, isBlank_eq_false_of_mem_tailChars hs⟩

/-- White space may stand between date and time, and nowhere else. -/
theorem trimmed_chars (separator : Char) : Text.Trimmed (s.chars separator) := by
  have hdate : s.dateChars ≠ [] := by simp [Stamp.dateChars]
  have htime : s.timeChars.reverse ≠ [] := by simp [Stamp.timeChars]
  constructor
  · intro c hc
    rw [Stamp.chars, List.head?_append_of_ne_nil _ hdate] at hc
    exact isBlank_eq_false_of_mem_dateChars hs c (List.mem_of_mem_head? hc)
  · intro c hc
    rw [Stamp.chars, List.reverse_append, List.reverse_cons, List.append_assoc,
      List.head?_append_of_ne_nil _ htime] at hc
    exact isBlank_eq_false_of_mem_timeChars hs c (List.mem_reverse.mp (List.mem_of_mem_head? hc))

end Blanks

theorem instant?_text {separator : Char} {s : Stamp} (hs : s.WellFormed)
    (hseparator : separator = 'T' ∨ separator = ' ') :
    instant? (s.text separator) =
      (s.readingAt s.zone.seconds?).bind ClockReading.instant? := by
  have htrimmed : Text.Trimmed (s.text separator).toList := by
    rw [Stamp.text, String.toList_ofList]
    exact trimmed_chars hs separator
  rw [instant?, Text.trim_eq_self htrimmed, Stamp.text, String.toList_ofList, recognize]
  simp only [List.findSome?_cons, List.findSome?_nil, Layout.reading?, Option.bind_none,
    dateReading?_chars separator hs, mailReading?_chars separator hs,
    dateTimeReading?_chars hs hseparator]
  cases s.readingAt s.zone.seconds? with
  | none => rfl
  | some r =>
      rw [Option.bind_some, Option.bind_some]
      cases r.instant? <;> rfl

end RowTypings.Time
