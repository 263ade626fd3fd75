import ReleaseLines.Numeral

namespace ReleaseLines

/-- A day of the calendar, in the Gregorian rules of all years. -/
structure Date where
  year : Nat
  month : Nat
  day : Nat
  deriving DecidableEq, Repr

namespace Date

def isLeap (year : Nat) : Bool :=
  year % 4 == 0 && (year % 100 != 0 || year % 400 == 0)

/-- The number of days in a month; there is none in a month that does not exist. -/
def daysIn (year month : Nat) : Nat :=
  match month with
  | 1 | 3 | 5 | 7 | 8 | 10 | 12 => 31
  | 4 | 6 | 9 | 11 => 30
  | 2 => if isLeap year then 29 else 28
  | _ => 0

/-- Whether the numbers name a day of the years 1 to 9999. -/
def isReal (d : Date) : Bool :=
  1 ≤ d.year && d.year ≤ 9999 && 1 ≤ d.day && d.day ≤ daysIn d.year d.month

/-- Earlier years first, then earlier months, then earlier days. -/
def notAfter (a b : Date) : Bool :=
  a.year < b.year ||
    (a.year == b.year && (a.month < b.month || (a.month == b.month && a.day ≤ b.day)))

instance : LE Date := ⟨fun a b => a.notAfter b = true⟩

instance (a b : Date) : Decidable (a ≤ b) := inferInstanceAs (Decidable (_ = true))

/-- A number in at least `width` digits. -/
def padded (width n : Nat) : String :=
  let ds := Numeral.digits n
  String.ofList (List.replicate (width - ds.length) '0' ++ ds)

/-- Four digits, two and two, with hyphens between. -/
def text (d : Date) : String :=
  padded 4 d.year ++ "-" ++ padded 2 d.month ++ "-" ++ padded 2 d.day

end Date

end ReleaseLines
