import Colloquy.Error.Basic

/-!
# Calendar dates

A date is written as year, month and day, `YYYY-MM-DD` or without the dashes, or as year, week and
perhaps day of the week, `YYYY-Www-D`. Only days that the calendar has are dates.
-/

set_option autoImplicit false

namespace Colloquy

structure CalendarDate where
  year : Nat
  month : Nat
  day : Nat
  deriving Repr, DecidableEq

namespace CalendarDate

def isLeap (year : Nat) : Bool :=
  year % 4 = 0 && (year % 100 ≠ 0 || year % 400 = 0)

def daysIn (year month : Nat) : Nat :=
  if month = 2 then (if isLeap year then 29 else 28)
  else if [4, 6, 9, 11].contains month then 30
  else 31

/-- The number of the first day of a year, counted from the first day of the year one. -/
def firstDay (year : Nat) : Nat :=
  let before := year - 1
  before * 365 + before / 4 - before / 100 + before / 400

def weekday (number : Nat) : Nat := number % 7

/-- The first day of the first week of a year, which is the one that holds the fourth of January.
It is counted from a Monday a week before the year one, so that it is never negative. -/
def firstMonday (year : Nat) : Nat :=
  let first := firstDay year
  let monday := first + 7 - weekday first
  if 3 < weekday first then monday + 7 else monday

def weeksIn (year : Nat) : Nat :=
  let first := weekday (firstDay year)
  if first = 3 || (first = 2 && isLeap year) then 53 else 52

def after (days : Nat) (year : Nat) : List Nat → CalendarDate
  | [] => ⟨year, 12, 31⟩
  | month :: months =>
      if days < daysIn year month then ⟨year, month, days + 1⟩
      else after (days - daysIn year month) year months

/-- The day of a week of a year. The year zero has no months. -/
def ofWeek? (year week day : Nat) : Option CalendarDate :=
  if week = 0 || weeksIn year < week || day = 0 || 7 < day then none
  else if year = 0 then some ⟨1, 0, 0⟩
  else
    let number := firstMonday year + (week - 1) * 7 + (day - 1)
    let found := if number < firstDay year + 7 then year - 1
      else if number < firstDay (year + 1) + 7 then year else year + 1
    some (after (number - (firstDay found + 7)) found ((List.range 12).map (· + 1)))

/-- The numbers that characters spell as a date, whatever the calendar has. -/
def read? (characters : List Char) : Option CalendarDate :=
  let part (start length : Nat) : Option Nat :=
    let digits := (characters.drop start).take length
    if digits.length = length && Number.isDigits digits then some (Number.ofDigits digits) else none
  let at? (place : Nat) (character : Char) : Bool := characters[place]? = some character
  match characters.length, at? 4 '-' with
  | 10, true =>
      if at? 5 'W' then do
        let (year, week) := (← part 0 4, ← part 6 2)
        if at? 8 '-' then ofWeek? year week (← part 9 1) else none
      else if at? 7 '-' then do return ⟨← part 0 4, ← part 5 2, ← part 8 2⟩
      else none
  | 8, true => if at? 5 'W' then do ofWeek? (← part 0 4) (← part 6 2) 1 else none
  | 8, false =>
      if at? 4 'W' then do ofWeek? (← part 0 4) (← part 5 2) (← part 7 1)
      else do return ⟨← part 0 4, ← part 4 2, ← part 6 2⟩
  | 7, false => if at? 4 'W' then do ofWeek? (← part 0 4) (← part 5 2) 1 else none
  | _, _ => none

def fault? (date : CalendarDate) : Option String :=
  if date.year = 0 || 9999 < date.year then
    some ("year " ++ toString date.year ++ " is out of range")
  else if date.month = 0 || 12 < date.month then some "month must be in 1..12"
  else if date.day = 0 || daysIn date.year date.month < date.day then
    some "day is out of range for month"
  else none

/-- A number with zeros in front, so that it has at least some number of digits. -/
def padded (width number : Nat) : String :=
  let digits := (toString number).toList
  String.ofList (List.replicate (width - digits.length) '0' ++ digits)

def text (date : CalendarDate) : String :=
  padded 4 date.year ++ "-" ++ padded 2 date.month ++ "-" ++ padded 2 date.day

def ofText (spelled : String) : Except Error CalendarDate :=
  match read? spelled.toList with
  | none =>
      .error (.unsupported .value ("Invalid isoformat string: " ++ Text.quoted spelled))
  | some date =>
      match date.fault? with
      | some fault => .error (.unsupported .value fault)
      | none => .ok date

end CalendarDate

end Colloquy
