import RowTypings.Proofs.Time.Parts

/-!
Spellings of a timestamp. The sign between date and time and the colon within the offset do not
count, no offset is the offset of UTC, and an offset moves the instant and does nothing else. Which
spelling it is decides only which of several parsers, tried in turn, is the one that reads it.
-/

namespace RowTypings.Time

/-! ### Parsers tried in turn -/

/-- A parser of the layout knows one sign between date and time, and some of the zones. -/
structure Parser where
  separator : Char
  zone : List Char → Option Int

def Parser.instant? (p : Parser) (cs : List Char) : Option Instant := do
  let (date, cs) ← readDate cs
  let cs ← readChar p.separator cs
  let reading ← readTime p.zone date cs
  reading.instant?

/-- `Z`, or an offset with its colon. -/
def readStrictZone (cs : List Char) : Option Int :=
  if cs == ['Z'] then some 0
  else if cs[3]? == some ':' then readOffset true cs
  else none

def readNoZone (cs : List Char) : Option Int := if cs.isEmpty then some 0 else none

/-- The first parser is given the text with `T` for its first space. Of the others there is one for
each sign, first with an offset and then without. -/
def tryInTurn (cs : List Char) : Option Instant :=
  (Parser.instant? ⟨'T', readStrictZone⟩ (cs.replace ' ' 'T')).or
    ((Parser.instant? ⟨'T', readOffset true⟩ cs).or
      ((Parser.instant? ⟨' ', readOffset true⟩ cs).or
        ((Parser.instant? ⟨'T', readNoZone⟩ cs).or (Parser.instant? ⟨' ', readNoZone⟩ cs))))

theorem readsZones_readStrictZone : ReadsZones readStrictZone := by
  intro c cs hc
  have hutc : c ≠ 'Z' := ne_of_isNumeric hc (by decide)
  simp [readStrictZone, hutc, readsZones_readOffset c cs hc]

theorem readsZones_readNoZone : ReadsZones readNoZone := fun _ _ _ => rfl

/-- Of the offsets the strict reader reads those with a colon. -/
def Zone.strictSeconds? : Zone → Option Int
  | none => .none
  | utc => some 0
  | offset negative colon hours minutes =>
    if colon then (offset negative colon hours minutes).seconds? else .none

theorem readStrictZone_chars {z : Zone} (hz : z.WellFormed) :
    readStrictZone z.chars = z.strictSeconds? := by
  cases z with
  | none => rfl
  | utc => rfl
  | offset negative colon hours minutes =>
      obtain ⟨hhours, hminutes⟩ := hz
      have hutc : ((Zone.offset negative colon hours minutes).chars == ['Z']) = false := by
        cases negative with
        | true => rfl
        | false => rfl
      have hfourth : (Zone.offset negative colon hours minutes).chars[3]? =
          ((if colon then [':'] else []) ++ minutes).head? := by
        rw [Zone.chars, List.getElem?_cons_succ, List.getElem?_append_right (Nat.le_of_eq hhours.1),
          hhours.1, List.head?_eq_getElem?]
      rw [readStrictZone, hutc, hfourth, Zone.strictSeconds?, readOffset_chars hhours hminutes]
      cases colon with
      | true => rfl
      | false =>
          have hdigit : minutes.head? ≠ some ':' := by
            intro hhead
            have hmem := List.mem_of_mem_head? hhead
            exact ne_of_isNumeric (hminutes.2 ':' hmem) (by decide) rfl
          simp [hdigit]

section Parsers

variable {s : Stamp} (hs : s.WellFormed)
include hs

theorem Parser.instant?_chars {p : Parser} (hzone : ReadsZones p.zone) (separator : Char) :
    p.instant? (s.chars separator) =
      if separator = p.separator then
        (s.readingAt (p.zone s.zone.chars)).bind ClockReading.instant?
      else none := by
  have hparts : p.instant? (s.chars separator) =
      (readDate (s.chars separator)).bind fun (date, cs) =>
        (readChar p.separator cs).bind fun cs =>
          (readTime p.zone date cs).bind ClockReading.instant? := rfl
  rw [hparts, ← bind_readTime separator hs hzone, bind_readDate hs, bind_readDate hs]
  split
  · rename_i hsame
    subst hsame
    simp [bind_readChar, Option.bind_assoc]
  · rename_i hother
    simp [readChar, hother]

/-- The first space of the text is the one between date and time. -/
theorem replace_chars {separator : Char} (hseparator : separator = 'T' ∨ separator = ' ') :
    (s.chars separator).replace ' ' 'T' = s.chars 'T' := by
  have hdate : ' ' ∉ s.dateChars := fun hmem => by
    have hblank := isBlank_eq_false_of_mem_dateChars hs ' ' hmem
    cases hblank
  have htime : ' ' ∉ s.timeChars := fun hmem => by
    have hblank := isBlank_eq_false_of_mem_timeChars hs ' ' hmem
    cases hblank
  rw [Stamp.chars, List.replace_append_right hdate]
  rcases hseparator with rfl | rfl
  · rw [List.replace_of_not_mem (by simpa using htime)]
    rfl
  · rw [List.replace_cons_self]
    rfl

/-- The instant of a text is that of the first parser that finds one. -/
theorem instant?_eq_tryInTurn {separator : Char} (hseparator : separator = 'T' ∨ separator = ' ') :
    instant? (s.text separator) = tryInTurn (s.chars separator) := by
  rw [instant?_text hs hseparator, tryInTurn, replace_chars hs hseparator,
    Parser.instant?_chars hs readsZones_readStrictZone,
    Parser.instant?_chars hs readsZones_readOffset, Parser.instant?_chars hs readsZones_readOffset,
    Parser.instant?_chars hs readsZones_readNoZone, Parser.instant?_chars hs readsZones_readNoZone]
  have hzone := hs.zone
  have hnone : (s.readingAt none).bind ClockReading.instant? = none := by
    cases hclock : s.clock? <;> simp [Stamp.readingAt, hclock]
  dsimp only
  rw [readStrictZone_chars hzone]
  cases hz : s.zone with
  | none =>
      have hoffset : readOffset true Zone.none.chars = none := rfl
      have hplain : readNoZone Zone.none.chars = Zone.none.seconds? := rfl
      rw [hoffset, hplain]
      rcases hseparator with rfl | rfl <;> simp [hnone, Zone.strictSeconds?]
  | utc =>
      have hoffset : readOffset true Zone.utc.chars = none := rfl
      have hplain : readNoZone Zone.utc.chars = none := rfl
      rw [hoffset, hplain]
      rcases hseparator with rfl | rfl <;> simp [hnone, Zone.seconds?, Zone.strictSeconds?]
  | offset negative colon hours minutes =>
      rw [hz] at hzone
      have hplain : readNoZone (Zone.offset negative colon hours minutes).chars = none := rfl
      rw [readOffset_chars hzone.1 hzone.2, hplain]
      rcases hseparator with rfl | rfl <;> cases colon <;> simp [hnone, Zone.strictSeconds?]

end Parsers

/-! ### Spellings of one instant -/

/-- A number below a hundred in two digits. -/
def twoDigits (n : Nat) : List Char := [Nat.digitChar (n / 10), Nat.digitChar (n % 10)]

theorem twoDigits_spec {n : Nat} (h : n < 60) :
    Digits 2 (twoDigits n) ∧ number? (twoDigits n) = some n := by
  have hall : ∀ n < 60, Digits 2 (twoDigits n) ∧ number? (twoDigits n) = some n := by
    decide +kernel
  exact hall n h

/-- The seconds of an offset up to 23:59. -/
theorem offset_twoDigits (negative colon : Bool) {h m : Nat} (hh : h ≤ 23) (hm : m ≤ 59) :
    (Zone.offset negative colon (twoDigits h) (twoDigits m)).WellFormed ∧
      (Zone.offset negative colon (twoDigits h) (twoDigits m)).seconds? =
        some (if negative then -((h : Int) * 3600 + m * 60) else h * 3600 + m * 60) := by
  obtain ⟨hhours, hhoursValue⟩ := twoDigits_spec (show h < 60 by omega)
  obtain ⟨hminutes, hminutesValue⟩ := twoDigits_spec (show m < 60 by omega)
  refine ⟨⟨hhours, hminutes⟩, ?_⟩
  cases negative with
  | true => simp [Zone.seconds?, hhoursValue, hminutesValue, offsetSeconds, show m < 60 by omega]
  | false => simp [Zone.seconds?, hhoursValue, hminutesValue, offsetSeconds, show m < 60 by omega]

def Stamp.withZone (s : Stamp) (z : Zone) : Stamp := { s with zone := z }

theorem Stamp.WellFormed.withZone {s : Stamp} (hs : s.WellFormed) {z : Zone} (hz : z.WellFormed) :
    (s.withZone z).WellFormed :=
  { hs with zone := hz }

theorem instant?_withZone {s : Stamp} (hs : s.WellFormed) {z : Zone} (hz : z.WellFormed)
    {separator : Char} (hseparator : separator = 'T' ∨ separator = ' ') :
    instant? ((s.withZone z).text separator) =
      s.clock?.bind fun r => z.seconds?.bind fun offset => { r with offset }.instant? := by
  rw [instant?_text (hs.withZone hz) hseparator, Stamp.readingAt, Option.bind_assoc]
  refine Option.bind_congr fun r _ => ?_
  rw [Option.bind_map]
  rfl

/-- An offset below a day moves the instant, and nothing else hangs on it. -/
theorem ClockReading.instant?_offset (r : ClockReading) {offset : Int}
    (hoffset : offset.natAbs < 86400) :
    { r with offset }.instant? = { r with offset := 0 }.instant?.map
      fun t : Instant => { t with seconds := t.seconds - offset } := by
  have hvalid : { r with offset }.isValid = { r with offset := 0 }.isValid := by
    simp [isValid, hoffset]
  rw [instant?, instant?, hvalid]
  split
  · simp
  · rfl

/-- The instant is that of the first of the five parsers that finds one. The sign between date and
time and the colon within an offset do not count; no offset is that of UTC; and an offset up to 23:59 moves the instant of the text in UTC by so much, against its sign,
and leaves the part of the second as it is, so the text is a timestamp where that text is one. -/
theorem instant?_spellings {s : Stamp} (hs : s.WellFormed) :
    instant? (s.text 'T') = instant? (s.text ' ') ∧
    ∀ separator, separator = 'T' ∨ separator = ' ' →
      instant? (s.text separator) = tryInTurn (s.chars separator) ∧
      (∀ negative hours minutes, Digits 2 hours → Digits 2 minutes →
        instant? ((s.withZone (.offset negative true hours minutes)).text separator) =
          instant? ((s.withZone (.offset negative false hours minutes)).text separator)) ∧
      instant? ((s.withZone .none).text separator) = instant? ((s.withZone .utc).text separator) ∧
      ∀ negative colon (h m : Nat), h ≤ 23 → m ≤ 59 →
        instant? ((s.withZone (.offset negative colon (twoDigits h) (twoDigits m))).text
            separator) =
          (instant? ((s.withZone .utc).text separator)).map fun t =>
            { t with
              seconds := if negative then t.seconds + (h * 3600 + m * 60)
                else t.seconds - (h * 3600 + m * 60) } := by
  refine ⟨?_, fun separator hseparator => ⟨instant?_eq_tryInTurn hs hseparator, ?_, ?_, ?_⟩⟩
  · rw [instant?_text hs (.inl rfl), instant?_text hs (.inr rfl)]
  · intro negative hours minutes hhours hminutes
    have hoffset (colon : Bool) : (Zone.offset negative colon hours minutes).WellFormed :=
      ⟨hhours, hminutes⟩
    rw [instant?_withZone hs (hoffset true) hseparator,
      instant?_withZone hs (hoffset false) hseparator]
    rfl
  · have hnone : Zone.none.WellFormed := trivial
    have hutc : Zone.utc.WellFormed := trivial
    rw [instant?_withZone hs hnone hseparator, instant?_withZone hs hutc hseparator]
    rfl
  · intro negative colon h m hh hm
    obtain ⟨hoffset, hseconds⟩ := offset_twoDigits negative colon hh hm
    have hutc : Zone.utc.WellFormed := trivial
    rw [instant?_withZone hs hoffset hseparator, instant?_withZone hs hutc hseparator, hseconds]
    cases s.clock? with
    | none => rfl
    | some r =>
        cases negative with
        | true =>
            have hday : (-((h : Int) * 3600 + m * 60)).natAbs < 86400 := by omega
            simp only [Option.bind_some, Zone.seconds?, if_true, r.instant?_offset hday,
              Int.sub_neg]
        | false =>
            have hday : ((h : Int) * 3600 + m * 60).natAbs < 86400 := by omega
            simp only [Option.bind_some, Zone.seconds?, Bool.false_eq_true, if_false,
              r.instant?_offset hday]

/-- Half a second into a leap second, with a fraction of twelve digits. -/
theorem instant?_spellings_leap_second :
    instant? "2016-12-31 23:59:60.500000000001+05:30" = some ⟨1483208999, 1500000000⟩ ∧
    instant? "2016-12-31 23:59:60.500000000001+05:30" =
      instant? "2016-12-31 23:59:60.500000000001+0530" ∧
    instant? "2016-12-31T23:59:60.500000000001" = instant? "2016-12-31T23:59:60.500000000001Z" ∧
    instant? "2016-12-31T23:59:60.500000000001Z" =
      instant? "2016-12-31 23:59:60.500000000001Z" := by
  let s : Stamp :=
    { year := ['2', '0', '1', '6'], month := ['1', '2'], day := ['3', '1'], hour := ['2', '3'],
      minute := ['5', '9'], second := ['6', '0'],
      fraction := ['5', '0', '0', '0', '0', '0', '0', '0', '0', '0', '0', '1'], zone := .utc }
  have hs : s.WellFormed :=
    { year := by decide, month := by decide, day := by decide, hour := by decide,
      minute := by decide, second := by decide, fraction := List.all_eq_true.mp rfl,
      zone := trivial }
  have hspaced : (s.withZone (.offset false true (twoDigits 5) (twoDigits 30))).text ' ' =
      "2016-12-31 23:59:60.500000000001+05:30" := rfl
  have hplain : (s.withZone (.offset false false (twoDigits 5) (twoDigits 30))).text ' ' =
      "2016-12-31 23:59:60.500000000001+0530" := rfl
  have hnone : (s.withZone .none).text 'T' = "2016-12-31T23:59:60.500000000001" := rfl
  have hutc : (s.withZone .utc).text 'T' = "2016-12-31T23:59:60.500000000001Z" := rfl
  have hutcSpaced : (s.withZone .utc).text ' ' = "2016-12-31 23:59:60.500000000001Z" := rfl
  have hinstant : instant? "2016-12-31 23:59:60.500000000001Z" =
      some ⟨1483228799, 1500000000⟩ := by decide +kernel
  have hutcFormed : Zone.utc.WellFormed := trivial
  have hseparators := (instant?_spellings (hs.withZone hutcFormed)).1
  obtain ⟨-, hparts⟩ := instant?_spellings hs
  obtain ⟨-, hcolon, -, hmoved⟩ := hparts ' ' (.inr rfl)
  obtain ⟨-, -, hsame, -⟩ := hparts 'T' (.inl rfl)
  have hfive := (twoDigits_spec (show 5 < 60 by decide)).1
  have hthirty := (twoDigits_spec (show 30 < 60 by decide)).1
  have hcolons := hcolon false _ _ hfive hthirty
  have hoffset := hmoved false true 5 30 (by decide) (by decide)
  rw [hspaced, hutcSpaced, hinstant] at hoffset
  rw [hspaced, hplain] at hcolons
  rw [hnone, hutc] at hsame
  rw [hutc, hutcSpaced] at hseparators
  exact ⟨hoffset, hcolons, hsame, hseparators⟩

end RowTypings.Time
