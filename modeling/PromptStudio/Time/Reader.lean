import PromptStudio.Text.CodePoint
import PromptStudio.Time.Instant

/-!
# Reading a time

A time that was written down: a date, any one character, and a time of the day, perhaps with the distance of the clock
from UTC. The date is a calendar date or a day of a week, with dashes or without; the time of the day has one to three
pairs of digits, with colons or without, and may have a fraction of a second. A date may stand alone.
-/

namespace PromptStudio

/-- A reading of a clock, and how far the clock is ahead of UTC, in microseconds, if that is told. -/
structure ClockReading where
  clock : Instant
  ahead : Option Int
  deriving DecidableEq, Repr

namespace ClockReading

/-- The text of a distance from UTC: hours and minutes, and what is smaller where it is not zero. -/
def aheadText (ahead : Int) : List Char :=
  let seconds := ahead.natAbs / 1000000
  let micros := ahead.natAbs % 1000000
  (if ahead < 0 then '-' else '+') :: Instant.padded 2 (seconds / 3600) ++ ':' ::
    Instant.padded 2 (seconds / 60 % 60)
    ++ (if ahead.natAbs % 60000000 = 0 then [] else ':' :: Instant.padded 2 (seconds % 60))
    ++ if micros = 0 then [] else '.' :: Instant.padded 6 micros

def toText (r : ClockReading) : Text :=
  let ahead : Text := ((r.ahead.map aheadText).getD []).map .char
  r.clock.toText ++ ahead

end ClockReading

namespace TimeReader

/-- A number of exactly `n` digits, and what follows it. -/
def number? (n : Nat) (cs : List Char) : Option (Nat × List Char) :=
  let digits := cs.take n
  if digits.length = n ∧ digits.all Char.isDigit then
    some (digits.foldl (fun v c => 10 * v + (c.toNat - '0'.toNat)) 0, cs.drop n)
  else none

/-- The text behind a character that has to come next. -/
def expect? (c : Char) (cs : List Char) : Option (List Char) :=
  if cs.head? = some c then some (cs.drop 1) else none

/-- How many characters a date takes whose week is written without a dash: a lone day follows an even number of
digits. -/
def plainWeekLength (cs : List Char) : Nat :=
  let run := ((cs.drop 7).takeWhile Char.isDigit).length
  if run < 2 then 7 + run else if run % 2 = 1 then 7 else 8

def dateLength? (cs : List Char) : Option Nat :=
  if cs.length < 7 then none
  else if cs.length = 7 then some 7
  else if cs[4]? = some '-' then
    if cs[5]? = some 'W' then
      if cs[8]? = some '-' then
        if cs.length = 9 then none
        else some (if cs[10]?.any Char.isDigit then 8 else 10)
      else some 8
    else some 10
  else if cs[4]? = some 'W' then some (plainWeekLength cs)
  else some 8

def isLeap (year : Nat) : Bool :=
  year % 4 == 0 && (year % 100 != 0 || year % 400 == 0)

def monthLength (year month : Nat) : Nat :=
  if month = 2 then (if isLeap year then 29 else 28)
  else if month = 4 ∨ month = 6 ∨ month = 9 ∨ month = 11 then 30
  else 31

def weekday (epochDay : Int) : Int :=
  (epochDay + 3).emod 7

/-- The Monday of the first week of a year: the week of the fourth of January. -/
def firstMonday (year : Nat) : Int :=
  let fourth := (CalendarDay.mk year 1 4).toEpochDays
  fourth - weekday fourth

def weekCount (year : Nat) : Int :=
  (firstMonday (year + 1) - firstMonday year) / 7

def inRange? (d : CalendarDay) : Option CalendarDay :=
  if 1 ≤ d.year ∧ d.year ≤ 9999 then some d else none

def calendarDay? (year month day : Nat) : Option CalendarDay :=
  if 1 ≤ month ∧ month ≤ 12 ∧ 1 ≤ day ∧ day ≤ monthLength year month then inRange? ⟨year, month, day⟩ else none

def weekDay? (year week day : Nat) : Option CalendarDay :=
  if 1 ≤ year ∧ 1 ≤ week ∧ (week : Int) ≤ weekCount year ∧ 1 ≤ day ∧ day ≤ 7 then
    inRange? (.ofEpochDays (firstMonday year + 7 * ((week : Int) - 1) + (day - 1)))
  else none

def date? (cs : List Char) : Option CalendarDay := do
  let (year, rest) ← number? 4 cs
  let dashed := rest.head? == some '-'
  let next (rest : List Char) : Option (List Char) := if dashed then expect? '-' rest else some rest
  let rest ← next rest
  match rest with
  | 'W' :: rest =>
    let (week, rest) ← number? 2 rest
    if rest.isEmpty then weekDay? year week 1
    else
      let (day, _) ← number? 1 (← next rest)
      weekDay? year week day
  | _ =>
    let (month, rest) ← number? 2 rest
    let (day, rest) ← number? 2 (← next rest)
    if rest.isEmpty then calendarDay? year month day else none

/-- Whether a text is over: nothing follows, or a character that ends every text. -/
def isOver (cs : List Char) : Bool :=
  cs.isEmpty || cs.head? == some '\x00'

structure Pairs where
  values : List Nat
  micros : Nat
  isOver : Bool

/-- A fraction of a second: six digits count, and those that follow are passed over. -/
def fraction? (cs : List Char) : Option Pairs := do
  let places := min 6 cs.length
  let (value, rest) ← number? places cs
  return ⟨[], value * Nat.pow 10 (6 - places), isOver (rest.dropWhile Char.isDigit)⟩

/--
At most `n` pairs of digits and a fraction. `colons` says whether colons stand between pairs, which the first pair
shows. One character that nothing follows ends the pairs, whatever it is.
-/
def pairs? (colons : Option Bool) : Nat → List Char → Option Pairs
  | 0, cs => fraction? cs
  | n + 1, cs => do
    let (value, rest) ← number? 2 cs
    match rest with
    | [] => return ⟨[value], 0, true⟩
    | [c] => return ⟨[value], 0, c == '\x00'⟩
    | c :: more =>
      let colons := colons.getD (c == ':')
      let rest ←
        if c = ':' ∧ colons then pairs? (some colons) n more
        else if c = '.' ∨ c = ',' then fraction? more
        else if colons then none
        else pairs? (some colons) n (c :: more)
      return { rest with values := value :: rest.values }

/-- The microseconds of hours, minutes and seconds, with their fraction. -/
def Pairs.total (p : Pairs) : Nat :=
  ((p.values.getD 0 0 * 60 + p.values.getD 1 0) * 60 + p.values.getD 2 0) * 1000000 + p.micros

def Pairs.isTimeOfDay (p : Pairs) : Bool :=
  p.values.getD 0 0 < 24 && p.values.getD 1 0 < 60 && p.values.getD 2 0 < 60

def startsZone (c : Char) : Bool :=
  c == '+' || c == '-' || c == 'Z'

def dayMicros : Nat := 86400000000

/-- A distance from UTC: less than a day, and none where it is less than a second. -/
def zone? (cs : List Char) : Option Int :=
  match cs with
  | 'Z' :: rest => if isOver rest then some 0 else none
  | sign :: rest => do
    let p ← pairs? none 3 rest
    if !p.isOver ∨ dayMicros ≤ p.total then none
    else if p.total < 1000000 then some 0
    else some (if sign = '-' then -(p.total : Int) else p.total)
  | [] => none

/-- The time of the day, with a distance from UTC behind it or without. -/
def timeOfDay? (cs : List Char) : Option (Nat × Option Int) := do
  let zone := cs.dropWhile (!startsZone ·)
  let p ← pairs? none 3 (cs.takeWhile (!startsZone ·))
  if !p.isTimeOfDay then none
  else if zone.isEmpty then (if p.isOver then some (p.total, none) else none)
  else return (p.total, some (← zone? zone))

end TimeReader

def ClockReading.ofChars? (cs : List Char) : Option ClockReading := do
  let length ← TimeReader.dateLength? cs
  let day ← TimeReader.date? (cs.take length)
  let midnight := Instant.ofCalendar day 0 0 0 0
  if cs.length ≤ length then return ⟨midnight, none⟩
  else
    let (micros, ahead) ← TimeReader.timeOfDay? (cs.drop (length + 1))
    return ⟨midnight + micros, ahead⟩

end PromptStudio
