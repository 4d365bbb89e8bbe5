import Std.Data.HashSet
import Spreadsheet.Date.Text
import Spreadsheet.Function.Argument

/-! Functions of dates, and arguments that are dates: serial numbers, or text that is read as a
number if it is a numeral and as a date otherwise.
-/

namespace Spreadsheet

/-- The serial number that an argument shows at a cell. -/
def Value.date (system : DateSystem) (here : Position) (argument : Value)
    (currentYear : Int := DateText.defaultYear)
    : Except CellError Float := do
  match ← argument.resolve here with
  | .text content =>
    match Number.parse? content with
    | some x => return x
    | none =>
      match DateText.serial? system content currentYear with
      | some serial => return Float.ofInt serial
      | none => throw .value
  | value => value.toNumber

/-- The serial numbers of all cells of an area, row by row. -/
def Area.dates (system : DateSystem) (a : Area Value) (currentYear : Int)
    : Except CellError (List Float) :=
  if Value.maxCells < a.cellCount then .error .num
  else a.entries.mapM fun (p, value) => value.date system p currentYear

/-- The serial numbers that an argument lists; one that is left out lists none. -/
def Value.dates (system : DateSystem) (here : Position) (argument : Option Value)
    (currentYear : Int := DateText.defaultYear)
    : Except CellError (List Float) :=
  match argument with
  | none => .ok []
  | some .missing => .ok []
  | some (.area a) => a.dates system currentYear
  | some (.union areas) => do return (← areas.mapM (·.dates system currentYear)).flatten
  | some value => do return [← value.date system here currentYear]

namespace DateFunction

/-- The integer part of a number argument, in the 32-bit range. -/
def integer (ctx : Context) (argument : Value) : Except CellError Int := do
  return Number.clampToInt (-0x80000000) 0x7fffffff (← ctx.number argument)

/-- The serial number of a year, a month and a day of any size. -/
def date (ctx : Context) (year month day : Value) : Value :=
  .ofExcept (do
    let year ← integer ctx year
    let month ← integer ctx month
    let day ← integer ctx day
    match ctx.dates.ofParts? year month day with
    | some serial => return .number (Float.ofInt serial)
    | none => throw .num)

/-- The whole serial number below a date. -/
def wholeSerial? (system : DateSystem) (x : Float) : Except CellError Int :=
  match Number.Binary.ofFloat? x with
  | some b => if system.isSerial b.floor then .ok b.floor else .error .num
  | none => .error .num

/-- A part of the date that an argument shows. -/
def part (field : CalendarDate → Int) (ctx : Context) (argument : Value) : Value :=
  .ofNumber (do
    let serial ← wholeSerial? ctx.dates (← argument.date ctx.dates ctx.here ctx.year)
    return Float.ofInt (field (ctx.dates.toDate serial)))

/-- Whole days from one date to another. -/
def daysBetween (ctx : Context) (last first : Value) : Value :=
  .ofNumber (do
    let last ← last.date ctx.dates ctx.here ctx.year
    let first ← first.date ctx.dates ctx.here ctx.year
    return Number.floor last - Number.floor first)

/-- The whole day of a holiday, in the 64-bit range. -/
def holiday (x : Float) : Int :=
  Number.clampToInt (-0x8000000000000000) 0x7fffffffffffffff (Number.floor x)

/-- Number of days from `first` on, `count` of them, that are working days. -/
def countWorkingDays (isWorking : Int → Bool) (first : Int) (count : Nat) : Nat :=
  count.fold (fun day _ total => if isWorking (first + day) then total + 1 else total) 0

/-- Number of weekdays from one date to another, with both of them counted and holidays left
out; it is negative if the dates run backward.
-/
def workingDays (ctx : Context) (start stop : Value) (holidays : Option Value) : Value :=
  .ofNumber (do
    let system := ctx.dates
    let start ← start.date system ctx.here ctx.year
    let stop ← stop.date system ctx.here ctx.year
    let start ← wholeSerial? system start
    let stop ← wholeSerial? system stop
    let free := Std.HashSet.ofList ((← Value.dates system ctx.here holidays ctx.year).map holiday)
    let first := min start stop
    let count := (max start stop - first + 1).toNat
    let isWorking (day : Int) : Bool := system.isWeekday day && !free.contains day
    let total := Float.ofNat (countWorkingDays isWorking first count)
    return (if start ≤ stop then 1 else -1) * total)

end DateFunction

end Spreadsheet
