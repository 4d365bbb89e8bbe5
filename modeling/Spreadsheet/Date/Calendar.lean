/-! The Gregorian calendar, carried back before its introduction, with days numbered through
from 0000-03-01.
-/

namespace Spreadsheet

/-- A day given by year, month and day of the month. -/
structure CalendarDate where
  year : Int
  month : Int
  day : Int
  deriving DecidableEq, Repr

namespace Calendar

/-- Leap years have a 29 February. -/
def isLeap (year : Int) : Bool :=
  year % 4 == 0 && (year % 100 != 0 || year % 400 == 0)

/-- The length of a month. -/
def daysInMonth (year month : Int) : Int :=
  if month = 2 then if isLeap year then 29 else 28
  else if month = 4 || month = 6 || month = 9 || month = 11 then 30
  else 31

/-- The years for which dates exist at all. -/
def hasYear (year : Int) : Bool :=
  -262143 ≤ year && year ≤ 262142

/-- The date exists. -/
def isDate (d : CalendarDate) : Bool :=
  hasYear d.year && (1 ≤ d.month && d.month ≤ 12)
    && (1 ≤ d.day && d.day ≤ daysInMonth d.year d.month)

/-- The number of a day. Years are taken to start in March, so that the leap day comes last and
month lengths follow one pattern; days past the end of the month count on.
-/
def dayNumber (d : CalendarDate) : Int :=
  let year := if d.month ≤ 2 then d.year - 1 else d.year
  let month := (d.month + 9) % 12
  365 * year + year / 4 - year / 100 + year / 400 + (153 * month + 2) / 5 + d.day - 1

/-- The day with a number: its 400-year cycle, the year in the cycle, and the month. -/
def ofDayNumber (n : Int) : CalendarDate :=
  let cycle := n / 146097
  let dayOfCycle := n % 146097
  let yearOfCycle :=
    (dayOfCycle - dayOfCycle / 1460 + dayOfCycle / 36524 - dayOfCycle / 146096) / 365
  let dayOfYear := dayOfCycle - (365 * yearOfCycle + yearOfCycle / 4 - yearOfCycle / 100)
  let month := (5 * dayOfYear + 2) / 153
  let year := 400 * cycle + yearOfCycle
  { year := if month < 10 then year else year + 1
    month := if month < 10 then month + 3 else month - 9
    day := dayOfYear - (153 * month + 2) / 5 + 1 }

end Calendar

end Spreadsheet
