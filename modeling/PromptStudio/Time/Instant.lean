import PromptStudio.Number.Shortest

/-!
# Instants

A time is a count of microseconds since the start of 1970, UTC. Its calendar date comes from counting days in eras of
400 years, which all have the same number of days; a year starts in March here, so that the leap day is its last.
-/

namespace PromptStudio

/-- A point in time, in microseconds since the start of 1970. -/
abbrev Instant := Int

/-- A day of the calendar. -/
structure CalendarDay where
  year : Int
  month : Nat
  day : Nat
  deriving DecidableEq, Repr

namespace CalendarDay

def daysPerEra : Int := 146097

/-- The days from the first of March of year zero to the start of 1970. -/
def epochOffset : Int := 719468

def ofEpochDays (days : Int) : CalendarDay :=
  let shifted := days + epochOffset
  let era := shifted.fdiv daysPerEra
  let dayOfEra := (shifted - era * daysPerEra).toNat
  let yearOfEra := (dayOfEra - dayOfEra / 1460 + dayOfEra / 36524 - dayOfEra / 146096) / 365
  let dayOfYear := dayOfEra - (365 * yearOfEra + yearOfEra / 4 - yearOfEra / 100)
  let monthFromMarch := (5 * dayOfYear + 2) / 153
  let month := if monthFromMarch < 10 then monthFromMarch + 3 else monthFromMarch - 9
  { year := yearOfEra + era * 400 + (if month ≤ 2 then 1 else 0)
    month
    day := dayOfYear - (153 * monthFromMarch + 2) / 5 + 1 }

def toEpochDays (d : CalendarDay) : Int :=
  let year := if d.month ≤ 2 then d.year - 1 else d.year
  let era := year.fdiv 400
  let yearOfEra := year - era * 400
  let monthFromMarch : Int := if 2 < d.month then d.month - 3 else d.month + 9
  let dayOfYear := (153 * monthFromMarch + 2) / 5 + d.day - 1
  era * daysPerEra + yearOfEra * 365 + yearOfEra / 4 - yearOfEra / 100 + dayOfYear - epochOffset

end CalendarDay

namespace Instant

def ofMillis (ms : Int) : Instant :=
  ms * 1000

def toMillis (t : Instant) : Int :=
  Int.fdiv t 1000

def ofCalendar (d : CalendarDay) (hour minute second micros : Nat) : Instant :=
  ((d.toEpochDays * 24 + hour) * 60 + minute) * 60000000 + second * 1000000 + micros

def padded (width n : Nat) : List Char :=
  let digits := Binary64.digitsOf n
  List.replicate (width - digits.length) '0' ++ digits

/-- The date and the time of the day, to the second, with a mark between them; `year` writes the year. -/
def secondTextWith (year : Int → List Char) (mark : Char) (t : Instant) : List Char :=
  let seconds := Int.fdiv t 1000000
  let days := seconds.fdiv 86400
  let ofDay := (seconds - days * 86400).toNat
  let date := CalendarDay.ofEpochDays days
  year date.year ++ '-' :: padded 2 date.month ++ '-' :: padded 2 date.day ++ mark
    :: padded 2 (ofDay / 3600) ++ ':' :: padded 2 (ofDay / 60 % 60) ++ ':' :: padded 2 (ofDay % 60)

/-- The date and the time of the day, to the second, with a mark between them; the year has four digits. -/
def toSecondText (mark : Char) (t : Instant) : List Char :=
  secondTextWith (fun year => padded 4 year.toNat) mark t

/-- The microseconds since the last whole second. -/
def micros (t : Instant) : Nat :=
  (t - Int.fdiv t 1000000 * 1000000).toNat

/-- The text of an instant: six digits of a second follow unless they are all zero. -/
def toText (t : Instant) : String :=
  String.ofList (toSecondText 'T' t ++ if t.micros = 0 then [] else '.' :: padded 6 t.micros)

end Instant

end PromptStudio
