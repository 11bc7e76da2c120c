/-!
# Backups

Names of backup files. A name holds the date of the backup, so that backups of different days have
different names, and within four-digit years the order of names is the order of dates.
-/

namespace ShowScout

/-- Whether a year of the Gregorian calendar, also before its introduction, is a leap year. -/
def isLeapYear (year : Int) : Bool :=
  year % 4 == 0 && (year % 100 != 0 || year % 400 == 0)

/-- The number of days of a month, which is none for a month that does not exist. -/
def daysInMonth (year : Int) (month : Nat) : Nat :=
  if month = 2 then if isLeapYear year then 29 else 28
  else if month = 4 || month = 6 || month = 9 || month = 11 then 30
  else if 1 ≤ month && month ≤ 12 then 31
  else 0

/-- The years that dates are kept for. -/
def firstYear : Int := -262143
def lastYear : Int := 262142

/-- A date of the calendar. -/
structure Date where
  year : Int
  month : Nat
  day : Nat
  year_mem : firstYear ≤ year ∧ year ≤ lastYear
  day_mem : 1 ≤ day ∧ day ≤ daysInMonth year month

/-- The date with the given parts, if the calendar has it. -/
def Date.of? (year : Int) (month day : Nat) : Option Date :=
  if h : (firstYear ≤ year ∧ year ≤ lastYear) ∧ 1 ≤ day ∧ day ≤ daysInMonth year month then
    some { year, month, day, year_mem := h.1, day_mem := h.2 }
  else none

/-- A number with at least the given number of digits. -/
def paddedDigits (width n : Nat) : List Char :=
  let digits := Nat.toDigits 10 n
  List.replicate (width - digits.length) '0' ++ digits

/-- A year in four digits; one that does not fit them has a sign. -/
def yearText (year : Int) : List Char :=
  if year < 0 then '-' :: paddedDigits 4 year.natAbs
  else if year ≤ 9999 then paddedDigits 4 year.natAbs
  else '+' :: paddedDigits 4 year.natAbs

def dateText (d : Date) : List Char :=
  yearText d.year ++ '-' :: (paddedDigits 2 d.month ++ '-' :: paddedDigits 2 d.day)

def backupFileName (d : Date) : String :=
  .ofList ("showhook-backup-".toList ++ dateText d ++ ".json".toList)

end ShowScout
