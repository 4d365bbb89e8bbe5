import Spreadsheet.Date.Calendar

/-! Serial numbers of dates. The system of 1900 counts 1900-01-01 as day 1, has a day 60 that it
calls 1900-02-29, and gives day 0 the name 1900-01-00; the system of 1904 counts 1904-01-01 as
day 0.
-/

namespace Spreadsheet

/-- The day that serial numbers are counted from. -/
inductive DateSystem where
  | from1900
  | from1904
  deriving DecidableEq, Repr

namespace DateSystem

/-- The serial number of 9999-12-31. -/
def maxSerial : DateSystem → Int
  | from1900 => 2958465
  | from1904 => 2957003

/-- The serial number belongs to a date. -/
def isSerial (system : DateSystem) (serial : Int) : Bool :=
  0 ≤ serial && serial ≤ system.maxSerial

/-- The day that serial number 0 would have without the leap day of 1900. -/
def origin : DateSystem → CalendarDate
  | from1900 => ⟨1899, 12, 31⟩
  | from1904 => ⟨1904, 1, 1⟩

/-- The year from which on dates have serial numbers. -/
def firstYear : DateSystem → Int
  | from1900 => 1900
  | from1904 => 1904

/-- The years that a month may be in for its days to be counted. -/
def hasYear : DateSystem → Int → Bool
  | from1900, year => 0 ≤ year && year ≤ 10000
  | from1904, year => Calendar.hasYear year

/-- One day that does not exist is counted from March 1900 on. -/
def extraDay : DateSystem → Int → Int → Int
  | from1900, year, month => if 1900 < year || (year = 1900 && 3 ≤ month) then 1 else 0
  | from1904, _, _ => 0

/-- The serial number of a day of a month, where days outside the month count on into its
neighbours; it may lie before the origin.
-/
def serialOf? (system : DateSystem) (year month day : Int) : Option Int :=
  if system.hasYear year then
    some (Calendar.dayNumber ⟨year, month, 1⟩ - Calendar.dayNumber system.origin
      + system.extraDay year month + day - 1)
  else
    none

/-- The serial number of an existing date that is not before the first year of the system. -/
def ofDate? (system : DateSystem) (d : CalendarDate) : Option Int :=
  if Calendar.isDate d && system.firstYear ≤ d.year then system.serialOf? d.year d.month d.day
  else none

/-- The date of a serial number. -/
def toDate (system : DateSystem) (serial : Int) : CalendarDate :=
  let first := Calendar.dayNumber system.origin
  match system with
  | from1904 => Calendar.ofDayNumber (first + serial)
  | from1900 =>
    if serial = 0 then ⟨1900, 1, 0⟩
    else if serial = 60 then ⟨1900, 2, 29⟩
    else Calendar.ofDayNumber (first + if 60 < serial then serial - 1 else serial)

/-- The serial number of a year, month and day of any size. Years before 1900 count from 1900,
and months are carried over into years.
-/
def ofParts? (system : DateSystem) (year month day : Int) : Option Int :=
  let year := if 0 ≤ year && year < 1900 then year + 1900 else year
  if year < 0 || 9999 < year then none
  else
    let months := year * 12 + (month - 1)
    match system.serialOf? (months / 12) (months % 12 + 1) day with
    | some serial => if system.isSerial serial then some serial else none
    | none => none

/-- The day of the week, counted from Sunday. -/
def weekday : DateSystem → Int → Int
  | from1900, serial => (serial - 1) % 7
  | from1904, serial => (serial + 5) % 7

/-- Monday to Friday. -/
def isWeekday (system : DateSystem) (serial : Int) : Bool :=
  system.weekday serial != 0 && system.weekday serial != 6

end DateSystem

end Spreadsheet
