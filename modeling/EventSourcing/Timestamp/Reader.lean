import EventSourcing.Text.Blank
import EventSourcing.Timestamp.Basic

/-!
# Reading timestamps

A timestamp is read as a date, a `T` or a blank, a time of day with an optional
fraction, and an offset from universal time.  Blanks may stand between the
parts, and digits of the fraction behind the ninth are dropped.
-/

namespace EventSourcing

namespace Timestamp

def skipBlanks (text : List Char) : List Char := text.dropWhile Text.isBlankChar

def digits? (width : Nat) (text : List Char) : Option (Nat × List Char) :=
  let digits := (text.take width).takeWhile Char.isDigit
  if digits.isEmpty then none
  else
    some (digits.foldl (fun value char => 10 * value + (char.toNat - 48)) 0,
      text.drop digits.length)

/-- A number of one or two digits, after blanks. -/
def shortNumber? (text : List Char) : Option (Nat × List Char) := digits? 2 (skipBlanks text)

/-- A year: four digits at most, or any number of digits behind a sign. -/
def year? (text : List Char) : Option (Int × List Char) :=
  match skipBlanks text with
  | '+' :: rest => (digits? rest.length rest).map fun part => ((part.1 : Int), part.2)
  | '-' :: rest => (digits? rest.length rest).map fun part => (-(part.1 : Int), part.2)
  | rest => (digits? 4 rest).map fun part => ((part.1 : Int), part.2)

/-- A separator, after blanks. -/
def separator? (separator : Char) (text : List Char) : Option (List Char) :=
  match skipBlanks text with
  | char :: rest => if char = separator then some rest else none
  | [] => none

def fraction? : List Char → Option (Nat × List Char)
  | '.' :: rest =>
    let digits := rest.takeWhile Char.isDigit
    if digits.isEmpty then none
    else
      let kept := digits.take 9
      let value := kept.foldl (fun value char => 10 * value + (char.toNat - 48)) 0
      some (value * Nat.pow 10 (9 - kept.length), rest.dropWhile Char.isDigit)
  | rest => some (0, rest)

def twoDigits? : List Char → Option (Nat × List Char)
  | first :: second :: rest =>
    if first.isDigit ∧ second.isDigit then
      some (10 * (first.toNat - 48) + (second.toNat - 48), rest)
    else none
  | _ => none

/-- Hours and minutes of an offset, in seconds. -/
def offsetAmount? (text : List Char) : Option (Int × List Char) := do
  let (hours, rest) ← twoDigits? text
  let (minutes, rest) ← twoDigits? (rest.dropWhile fun char => char = ':' || Text.isBlankChar char)
  if minutes < 60 ∧ hours < 24 then some (((60 * hours + minutes) * 60 : Nat), rest) else none

/-- The offset from universal time, in seconds. -/
def offset? (text : List Char) : Option (Int × List Char) :=
  match skipBlanks text with
  | 'Z' :: rest | 'z' :: rest => some (0, rest)
  | '+' :: rest => offsetAmount? rest
  | '-' :: rest | '\u2212' :: rest => (offsetAmount? rest).map fun part => (-part.1, part.2)
  | first :: second :: third :: rest =>
    if [first, second, third].map Char.toUpper = ['U', 'T', 'C'] then some (0, rest) else none
  | _ => none

def date? (text : List Char) : Option (CalendarDate × List Char) := do
  let (year, rest) ← year? text
  let (month, rest) ← shortNumber? (← separator? '-' rest)
  let (day, rest) ← shortNumber? (← separator? '-' rest)
  let date : CalendarDate := ⟨year, month, day⟩
  if 1 ≤ month ∧ month ≤ 12 ∧ 1 ≤ day ∧ day ≤ daysInMonth year month ∧ date.isCovered then
    some (date, rest)
  else none

/-- The seconds since midnight, and the nanoseconds behind them.  Any minute may
have a leap second. -/
def timeOfDay? (text : List Char) : Option (Int × Nat × List Char) := do
  let (hour, rest) ← shortNumber? text
  let (minute, rest) ← shortNumber? (← separator? ':' rest)
  let (second, rest) ← shortNumber? (← separator? ':' rest)
  let (nanosecond, rest) ← fraction? rest
  let start : Int := ((hour * 60 + minute) * 60 : Nat)
  if hour < 24 ∧ minute < 60 then
    if second < 60 then some (start + second, nanosecond, rest)
    else if second = 60 then some (start + 59, nanosecond + 1000000000, rest)
    else none
  else none

/-- The point in time that a text stands for; it has to lie in the years that
the calendar covers, where the text is written and in universal time. -/
def ofText? (text : String) : Option Timestamp := do
  let (date, rest) ← date? text.toList
  let rest ← match rest with
    | 'T' :: rest | 't' :: rest | ' ' :: rest => some rest
    | _ => none
  let (ofDay, nanoseconds, rest) ← timeOfDay? rest
  let (offset, rest) ← offset? rest
  let time : Timestamp := ⟨date.dayNumber * secondsOfDay + ofDay - offset, nanoseconds⟩
  if (skipBlanks rest).isEmpty ∧ time.date.isCovered then some time else none

example : (ofText? "2024-06-01T00:00:00.5-05:30").map text = some "2024-06-01T05:30:00.500Z" := by
  decide +kernel

example : (ofText? "2016-12-31T18:59:60-05:00").map text = some "2016-12-31T23:59:60Z" := by
  decide +kernel

example : ofText? "+262142-12-31T23:59:59-01:00" = none := by
  decide +kernel

end Timestamp

end EventSourcing
