import ReleaseLines.Binary64.Basic
import ReleaseLines.Calendar.Date

namespace ReleaseLines.Date

/-- The days from the first day of the year 0 to the first of a year. -/
def daysBeforeYear (year : Nat) : Nat :=
  365 * year + (year + 3) / 4 - (year + 99) / 100 + (year + 399) / 400

/-- The days of a year before a month. -/
def daysBeforeMonth (year : Nat) : (month : Nat) → Nat
  | 0 => 0
  | month + 1 => daysBeforeMonth year month + daysIn year month

/-- The days from the first day of the year 0 to a date. -/
def toDays (d : Date) : Nat :=
  daysBeforeYear d.year + daysBeforeMonth d.year d.month + (d.day - 1)

/-- The month that holds a day of the year, counted from 0, and the day of that month. The months
from `month` on are tried in order. -/
def monthAndDay (year dayOfYear month : Nat) : (tries : Nat) → Nat × Nat
  | 0 => (month, dayOfYear + 1)
  | tries + 1 =>
    if dayOfYear < daysIn year month then (month, dayOfYear + 1)
    else monthAndDay year (dayOfYear - daysIn year month) (month + 1) tries

/-- The date so many days after the first day of the year 0. -/
def ofDays (days : Nat) : Date :=
  let guess := 400 * days / 146097
  let year := if days < daysBeforeYear guess then guess - 1
    else if daysBeforeYear (guess + 1) ≤ days then guess + 1
    else guess
  let (month, day) := monthAndDay year (days - daysBeforeYear year) 1 11
  ⟨year, month, day⟩

end ReleaseLines.Date

namespace ReleaseLines

/-- A point in time, in microseconds after the first day of the year 0. -/
structure Instant where
  micros : Int
  deriving DecidableEq, Repr

namespace Instant

def microsPerSecond : Int := 1000000

def microsPerDay : Int := 86400 * microsPerSecond

/-- The first day of 1970. -/
def epoch : Instant := ⟨719528 * microsPerDay⟩

def ofDate (d : Date) : Instant := ⟨(d.toDays : Int) * microsPerDay⟩

def after (t : Instant) (micros : Int) : Instant := ⟨t.micros + micros⟩

/-- The instant a number of seconds after the first day of 1970, to the nearest microsecond. -/
def ofSeconds : Binary64 → Instant
  | .finite negative m e =>
    let (num, den) := Binary64.scaled (m * microsPerSecond.toNat) e
    let micros : Int := Binary64.roundQuotient num den
    epoch.after (if negative then -micros else micros)
  | _ => epoch

/-- The days of 400 years, after which the calendar repeats itself. -/
def daysPerCycle : Int := 146097

/-- Year, month and day with hyphens between, and no zeros before the year. The year before the
year 1 is the year 0, and those before it are negative. -/
def dayText (t : Instant) : String :=
  let days := t.micros / microsPerDay
  let d := Date.ofDays (days % daysPerCycle).toNat
  Numeral.intText (d.year + 400 * (days / daysPerCycle)) ++ "-" ++ Date.padded 2 d.month ++ "-" ++
    Date.padded 2 d.day

/-- The day that holds the instant. -/
def date (t : Instant) : Date := Date.ofDays (t.micros / microsPerDay).toNat

/-- Hours, minutes and seconds of the day with colons between. -/
def clockText (t : Instant) : String :=
  let seconds := (t.micros % microsPerDay / microsPerSecond).toNat
  Date.padded 2 (seconds / 3600) ++ ":" ++ Date.padded 2 (seconds / 60 % 60) ++ ":" ++
    Date.padded 2 (seconds % 60)

/-- Date and time with a `T` between, and the microseconds where there are any. -/
def isoText (t : Instant) : String :=
  let micros := (t.micros % microsPerSecond).toNat
  t.date.text ++ "T" ++ t.clockText ++ (if micros == 0 then "" else "." ++ Date.padded 6 micros)

end Instant

end ReleaseLines
