import EventSourcing.OrderedMap

/-!
# Points in time

A timestamp counts seconds from the start of 1970 in universal time, and
nanoseconds within the second.  Leap seconds are not counted: a leap second is
a second that goes on for more than a thousand million nanoseconds.  The text
of a timestamp gives date and time of day in the proleptic Gregorian calendar;
the fraction of a second has the fewest of 0, 3, 6 or 9 digits that lose
nothing.
-/

namespace EventSourcing

/-- A point in time: seconds from the start of 1970, and the nanoseconds behind
them, which go beyond a second in a leap second. -/
structure Timestamp where
  seconds : Int
  nanoseconds : Nat
deriving DecidableEq, Inhabited

namespace Timestamp

/-- The order of points in time: first the seconds count, then the nanoseconds. -/
def order : Timestamp → Timestamp → Ordering :=
  compareLex (compareOn Timestamp.seconds) (compareOn Timestamp.nanoseconds)

/-- Timestamps are ordered by time; a leap second lies between the second that
it prolongs and the next one. -/
instance : Ord Timestamp := ⟨order⟩

instance : Std.TransOrd Timestamp := inferInstanceAs (Std.TransCmp (compareLex _ _))

/-- The point in time a number of microseconds after the start of 1970. -/
def ofMicroseconds (count : Int) : Timestamp :=
  ⟨count.fdiv 1000000, 1000 * (count.fmod 1000000).toNat⟩

/-- The whole microseconds up to a point in time. -/
def microseconds (time : Timestamp) : Int := 1000000 * time.seconds + time.nanoseconds / 1000

@[simp] theorem microseconds_ofMicroseconds (count : Int) :
    (ofMicroseconds count).microseconds = count := by
  have split := Int.mul_fdiv_add_fmod count 1000000
  have positive := Int.fmod_nonneg_of_pos count (b := 1000000) (by decide)
  simp only [ofMicroseconds, microseconds]
  omega

/-- A day of the calendar. -/
structure CalendarDate where
  year : Int
  month : Nat
  day : Nat
deriving DecidableEq, Repr

/-- The number of days from the start of 1970 to a date; eras of 400 years
begin in March, so that the leap day is the last day of its year. -/
def CalendarDate.dayNumber (date : CalendarDate) : Int :=
  let year := if date.month ≤ 2 then date.year - 1 else date.year
  let era := year.fdiv 400
  let yearOfEra := year - era * 400
  let monthFromMarch : Int := if date.month > 2 then (date.month : Int) - 3 else date.month + 9
  let dayOfYear := (153 * monthFromMarch + 2) / 5 + date.day - 1
  let dayOfEra := yearOfEra * 365 + yearOfEra / 4 - yearOfEra / 100 + dayOfYear
  era * 146097 + dayOfEra - 719468

/-- The date a number of days after the start of 1970. -/
def CalendarDate.ofDayNumber (number : Int) : CalendarDate :=
  let shifted := number + 719468
  let era := shifted.fdiv 146097
  let dayOfEra := shifted - era * 146097
  let yearOfEra := (dayOfEra - dayOfEra / 1460 + dayOfEra / 36524 - dayOfEra / 146096) / 365
  let dayOfYear := dayOfEra - (365 * yearOfEra + yearOfEra / 4 - yearOfEra / 100)
  let monthFromMarch := (5 * dayOfYear + 2) / 153
  let day := dayOfYear - (153 * monthFromMarch + 2) / 5 + 1
  let month := if monthFromMarch < 10 then monthFromMarch + 3 else monthFromMarch - 9
  let year := yearOfEra + era * 400
  ⟨if month ≤ 2 then year + 1 else year, month.toNat, day.toNat⟩

/-- Whether a date lies in the years that the calendar covers. -/
def CalendarDate.isCovered (date : CalendarDate) : Bool :=
  -262143 ≤ date.year && date.year ≤ 262142

def isLeapYear (year : Int) : Bool :=
  year % 4 == 0 && (year % 100 != 0 || year % 400 == 0)

def daysInMonth (year : Int) (month : Nat) : Nat :=
  if month = 2 then if isLeapYear year then 29 else 28
  else if month ∈ [4, 6, 9, 11] then 30
  else 31

/-- A natural number written with at least `width` digits. -/
def padded (width number : Nat) : String :=
  let digits := Nat.toDigits 10 number
  String.ofList (List.replicate (width - digits.length) '0' ++ digits)

/-- Years of four digits stand alone; others have a sign. -/
def yearText (year : Int) : String :=
  if 0 ≤ year ∧ year ≤ 9999 then padded 4 year.toNat
  else (if year < 0 then "-" else "+") ++ padded 4 year.natAbs

/-- The fraction of a second, with the fewest digits that lose nothing. -/
def fractionText (nanoseconds : Nat) : String :=
  if nanoseconds = 0 then ""
  else if nanoseconds % 1000000 = 0 then "." ++ padded 3 (nanoseconds / 1000000)
  else if nanoseconds % 1000 = 0 then "." ++ padded 6 (nanoseconds / 1000)
  else "." ++ padded 9 nanoseconds

def secondsOfDay : Int := 86400

def date (time : Timestamp) : CalendarDate :=
  .ofDayNumber (time.seconds.fdiv secondsOfDay)

/-- Date and time of day in universal time; a leap second is the sixtieth of its
minute. -/
def text (time : Timestamp) : String :=
  let date := time.date
  let ofDay := (time.seconds.fmod secondsOfDay).toNat
  let second := ofDay % 60 + time.nanoseconds / 1000000000
  yearText date.year ++ "-" ++ padded 2 date.month ++ "-" ++ padded 2 date.day ++ "T" ++
    padded 2 (ofDay / 3600) ++ ":" ++ padded 2 (ofDay / 60 % 60) ++ ":" ++ padded 2 second ++
    fractionText (time.nanoseconds % 1000000000) ++ "Z"

end Timestamp

end EventSourcing
