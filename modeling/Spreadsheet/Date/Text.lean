import Spreadsheet.Date.Serial
import Spreadsheet.Number.Numeral
import Spreadsheet.Text.Cut

/-! Dates written as text: `yyyy-mm-dd`, `dd-mm-yyyy`, `mm-dd`, `mm/dd/yyyy`, `yyyy/mm/dd` and
`mm/dd`, where the month may also be an English name or its first three letters. What follows
the first word, such as a time of day, is not looked at.
-/

namespace Spreadsheet.DateText

/-- The months' names in order. -/
def monthNames : List String :=
  ["january", "february", "march", "april", "may", "june", "july", "august", "september",
    "october", "november", "december"]

/-- The year of dates that are written without one, for whoever does not say what year it is. -/
def defaultYear : Int := 2025

/-- Exactly four digits. -/
def isYear (cs : List Char) : Bool :=
  cs.length == 4 && cs.all Char.isDigit

/-- One digit or two. -/
def isDay (cs : List Char) : Bool :=
  (cs.length == 1 || cs.length == 2) && cs.all Char.isDigit

/-- One letter or more, or what could be a day. -/
def isMonth (cs : List Char) : Bool :=
  (!cs.isEmpty && cs.all Char.isAlpha) || isDay cs

/-- The pieces of a date, if they have one of the layouts; the month comes first without a
year, after the year or the day with hyphens, and before the day with slashes.
-/
def split? (cs : List Char) : Option (Option (List Char) × List Char × List Char) :=
  match Text.pieces '-' cs, Text.pieces '/' cs with
  | [a, b, c], _ =>
    if isYear a && isMonth b && isDay c then some (some a, b, c)
    else if isDay a && isMonth b && isYear c then some (some c, b, a)
    else none
  | [a, b], _ => if isMonth a && isDay b then some (none, a, b) else none
  | _, [a, b, c] =>
    if isMonth a && isDay b && isYear c then some (some c, a, b)
    else if isYear a && isMonth b && isDay c then some (some a, b, c)
    else none
  | _, [a, b] => if isMonth a && isDay b then some (none, a, b) else none
  | _, _ => none

/-- A month's number from its digits, its name, or the first three letters of its name. -/
def month? (cs : List Char) : Option Int :=
  if cs.all Char.isDigit then some (Number.Numeral.digitsValue cs)
  else
    let letters := cs.map Char.toLower
    let index := monthNames.findIdx? fun name =>
      name.toList == letters || (letters.length == 3 && letters.isPrefixOf name.toList)
    index.map fun i => (i : Int) + 1

/-- The date that a text names, which need not exist; without a year it is one of the current
year.
-/
def date? (text : String) (currentYear : Int) : Option CalendarDate := do
  let (year, month, day) ← split? (Unicode.firstWord text.toList)
  let year : Int := match year with
    | some digits => Number.Numeral.digitsValue digits
    | none => currentYear
  return ⟨year, ← month? month, Number.Numeral.digitsValue day⟩

/-- The serial number of the date that a text names. -/
def serial? (system : DateSystem) (text : String) (currentYear : Int := defaultYear)
    : Option Int := do
  system.ofDate? (← date? text currentYear)

end Spreadsheet.DateText
