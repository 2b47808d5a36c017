import MachineImage.Text.Decimal

/-!
Moments in time and their date in the proleptic Gregorian calendar.
-/
namespace MachineImage

/-- Seconds since the beginning of 1970; `leap` marks the second that follows second 59 of a minute
and does not count. -/
structure Instant where
  seconds : Int
  leap : Bool := false
  deriving DecidableEq, Repr

/-- A date of the calendar; year 0 comes before year 1. -/
structure CivilDate where
  year : Int
  month : Nat
  day : Nat
  deriving DecidableEq, Repr

namespace CivilDate

/-- The date `days` days after the first of January 1970. A cycle of 400 years begins on the first
of March, so that the leap day comes last. -/
def ofDays (days : Int) : CivilDate :=
  let z := days + 719468
  let cycle := z / 146097
  let dayOfCycle := (z % 146097).toNat
  let yearOfCycle :=
    (dayOfCycle - dayOfCycle / 1460 + dayOfCycle / 36524 - dayOfCycle / 146096) / 365
  let dayOfYear := dayOfCycle - (365 * yearOfCycle + yearOfCycle / 4 - yearOfCycle / 100)
  let monthFromMarch := (5 * dayOfYear + 2) / 153
  let month := if monthFromMarch < 10 then monthFromMarch + 3 else monthFromMarch - 9
  ⟨yearOfCycle + cycle * 400 + (if month ≤ 2 then 1 else 0), month,
    dayOfYear - (153 * monthFromMarch + 2) / 5 + 1⟩

/-- Four digits at least, with a sign outside the years 0 to 9999. -/
def yearText (year : Int) : Text :=
  let digits := Decimal.padded 4 year.natAbs
  if year < 0 then '-' :: digits else if 9999 < year then '+' :: digits else digits

/-- `YYYYMMDD`. -/
def stamp (d : CivilDate) : Text :=
  yearText d.year ++ Decimal.padded 2 d.month ++ Decimal.padded 2 d.day

end CivilDate

namespace Instant

def date (t : Instant) : CivilDate := .ofDays (t.seconds / 86400)

/-- `HHMMSS`; a leap second is second 60. -/
def clockText (t : Instant) : Text :=
  let s := (t.seconds % 86400).toNat
  Decimal.padded 2 (s / 3600) ++ Decimal.padded 2 (s / 60 % 60) ++
    Decimal.padded 2 (s % 60 + (if t.leap then 1 else 0))

/-- `YYYYMMDD`. -/
def dateStamp (t : Instant) : Text := t.date.stamp

/-- `YYYYMMDDTHHMMSSZ`. -/
def timestamp (t : Instant) : Text := t.dateStamp ++ 'T' :: t.clockText ++ ['Z']

end Instant

end MachineImage
