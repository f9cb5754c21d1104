import FileShare.Instant
import FileShare.Timezone

/-! # Calendar

Days are counted from the first day of 1970 in the Gregorian calendar. Years are taken to start in
March, so that the leap day is the last day of its year and months have fixed places.
-/
namespace FileShare.Log

structure Moment where
  year : Int
  month : Nat
  day : Nat
  hour : Nat
  minute : Nat
  second : Nat
  microsecond : Nat
  /-- Days from the epoch. -/
  dayNumber : Int
  zone : Timezone
deriving DecidableEq, Repr

namespace Moment

def cycleDays : Int := 146097

/-- The date of a day counted from 1 March of the year 0. -/
def dateOfShifted (shifted : Int) : Int × Nat × Nat :=
  let cycle := shifted / cycleDays
  let inCycle := (shifted % cycleDays).toNat
  let yearOfCycle := (inCycle - inCycle / 1460 + inCycle / 36524 - inCycle / 146096) / 365
  let inYear := inCycle - (365 * yearOfCycle + yearOfCycle / 4 - yearOfCycle / 100)
  let place := (5 * inYear + 2) / 153
  let day := inYear - (153 * place + 2) / 5 + 1
  let month := if place < 10 then place + 3 else place - 9
  let year : Int := cycle * 400 + yearOfCycle + if month ≤ 2 then 1 else 0
  (year, month, day)

/-- From 1 March of the year 0 to the epoch there are 719468 days. -/
def dateOfDay (day : Int) : Int × Nat × Nat := dateOfShifted (day + 719468)

def isLeap (year : Int) : Bool := year % 4 = 0 && (year % 100 ≠ 0 || year % 400 = 0)

def daysBeforeMonth (year : Int) (month : Nat) : Nat :=
  let common := [0, 31, 59, 90, 120, 151, 181, 212, 243, 273, 304, 334].getD (month - 1) 0
  if isLeap year && 3 ≤ month then common + 1 else common

def dayOfYear (m : Moment) : Nat := daysBeforeMonth m.year m.month + m.day

/-- The place of a day in its week; Sunday is zero. -/
def weekday (m : Moment) : Nat := ((m.dayNumber + 4) % 7).toNat

def ofMicroseconds (total : Int) (zone : Timezone) : Moment :=
  let here := total + zone.offsetHours * 3600000000
  let seconds := here / 1000000
  let inDay := (seconds % 86400).toNat
  let dayNumber := seconds / 86400
  let (year, month, day) := dateOfDay dayNumber
  { year, month, day
    hour := inDay / 3600
    minute := inDay / 60 % 60
    second := inDay % 60
    microsecond := (here % 1000000).toNat
    dayNumber, zone }

/-- The seconds of an instant, rounded back to microseconds with a half going to the even one. -/
def roundedMicroseconds (t : Instant) : Int :=
  let scaled := t.seconds.numerator * 1000000
  let size := Binary64.roundHalfEven scaled.natAbs t.seconds.denominator
  if scaled < 0 then -(size : Int) else size

/-- The moment of an instant in a zone; only the years from 1 to 9999 have a calendar. -/
def ofInstant? (t : Instant) (zone : Timezone) : Option Moment :=
  let m := ofMicroseconds (roundedMicroseconds t) zone
  if 1 ≤ m.year ∧ m.year ≤ 9999 then some m else none

/-! ## Texts -/

def padded (fill : Char) (width n : Nat) : String :=
  let digits := Nat.toDigits 10 n
  String.ofList (List.replicate (width - digits.length) fill ++ digits)

def two (n : Nat) : String := padded '0' 2 n

def offsetSign (m : Moment) : String := if m.zone.offsetHours < 0 then "-" else "+"

/-- Date, time with milliseconds cut from the microseconds, and offset. -/
def toText (m : Moment) : String :=
  padded '0' 4 m.year.toNat ++ "-" ++ two m.month ++ "-" ++ two m.day ++ " " ++
  two m.hour ++ ":" ++ two m.minute ++ ":" ++ two m.second ++ "." ++
  padded '0' 3 (m.microsecond / 1000) ++
  m.offsetSign ++ two m.zone.offsetHours.natAbs ++ ":00"

def monthNames : List String :=
  ["January", "February", "March", "April", "May", "June", "July", "August", "September",
    "October", "November", "December"]

def weekdayNames : List String :=
  ["Sunday", "Monday", "Tuesday", "Wednesday", "Thursday", "Friday", "Saturday"]

def monthName (m : Moment) : String := monthNames.getD (m.month - 1) ""

def weekdayName (m : Moment) : String := weekdayNames.getD m.weekday ""

def twelveHour (m : Moment) : Nat := (m.hour + 11) % 12 + 1

def halfDay (m : Moment) : String := if m.hour < 12 then "AM" else "PM"

/-- The week of the year, where weeks start on the given weekday. -/
def weekFrom (m : Moment) (start : Nat) : Nat := (m.dayOfYear + 6 - (m.weekday + 7 - start) % 7) / 7

/-- The week by which the first week of a year is the one with its first Thursday, with its year. -/
def isoWeek (m : Moment) : Int × Nat :=
  let fromMonday := (m.weekday + 6) % 7
  let (year, _, _) := dateOfDay (m.dayNumber - fromMonday + 3)
  let thursday := m.dayNumber - fromMonday + 3
  let firstDay := m.dayNumber - (m.dayOfYear - 1)
  let start := if year = m.year then firstDay
    else if year < m.year then firstDay - (if isLeap year then 366 else 365)
    else firstDay + (if isLeap m.year then 366 else 365)
  (year, ((thursday - start) / 7).toNat + 1)

def short (name : String) : String := String.ofList (name.toList.take 3)

def dateText (m : Moment) : String :=
  two m.month ++ "/" ++ two m.day ++ "/" ++ two (m.year.toNat % 100)

def timeText (m : Moment) : String := two m.hour ++ ":" ++ two m.minute ++ ":" ++ two m.second

/-- The text of one letter of a format; a letter without meaning stands for itself. -/
def field? (m : Moment) : Char → Option String
  | 'Y' => some (toString m.year)
  | 'm' => some (two m.month)
  | 'd' => some (two m.day)
  | 'e' => some (padded ' ' 2 m.day)
  | 'H' => some (two m.hour)
  | 'I' => some (two m.twelveHour)
  | 'M' => some (two m.minute)
  | 'S' => some (two m.second)
  | 'f' => some (padded '0' 6 m.microsecond)
  | 'j' => some (padded '0' 3 m.dayOfYear)
  | 'y' => some (two (m.year.toNat % 100))
  | 'C' => some (two (m.year.toNat / 100))
  | 'b' | 'h' => some (short m.monthName)
  | 'B' => some m.monthName
  | 'a' => some (short m.weekdayName)
  | 'A' => some m.weekdayName
  | 'p' => some m.halfDay
  | 'w' => some (toString m.weekday)
  | 'u' => some (toString ((m.weekday + 6) % 7 + 1))
  | 'U' => some (two (m.weekFrom 0))
  | 'W' => some (two (m.weekFrom 1))
  | 'V' => some (two m.isoWeek.2)
  | 'G' => some (toString m.isoWeek.1)
  | 'z' => some (m.offsetSign ++ two m.zone.offsetHours.natAbs ++ "00")
  | 'Z' => some m.zone.abbreviation
  | 'D' | 'x' => some m.dateText
  | 'T' | 'X' => some m.timeText
  | 'F' => some (toString m.year ++ "-" ++ two m.month ++ "-" ++ two m.day)
  | 'R' => some (two m.hour ++ ":" ++ two m.minute)
  | 'c' => some (short m.weekdayName ++ " " ++ short m.monthName ++ " " ++
      padded ' ' 2 m.day ++ " " ++ m.timeText ++ " " ++ toString m.year)
  | 'n' => some "\n"
  | 't' => some "\t"
  | '%' => some "%"
  | _ => none

/-- Replaces each percent sign and its letter by a field. -/
def formatChars (m : Moment) : List Char → List Char
  | '%' :: c :: rest =>
    (match m.field? c with
      | some s => s.toList
      | none => ['%', c]) ++ formatChars m rest
  | c :: rest => c :: formatChars m rest
  | [] => []

def format (m : Moment) (pattern : String) : String :=
  String.ofList (m.formatChars pattern.toList)

end Moment
end FileShare.Log
