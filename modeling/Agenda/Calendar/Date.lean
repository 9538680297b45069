import Agenda.Calendar.Weekday

/-!
Dates of the proleptic Gregorian calendar from the year -262143 to the year 262142. Going on by one
day is the next day of the month, else the first of the next month, else the first of the next year;
the last day of the calendar has no next one. `dayNumber` counts the days and fixes the weekday.
-/

namespace Agenda.Calendar

/-- Every fourth year is a leap year, of the full centuries only every fourth. -/
def isLeapYear (year : Int) : Bool := year % 4 == 0 && (year % 100 != 0 || year % 400 == 0)

/-- The number of days in a month. -/
def daysInMonth (year : Int) (month : Nat) : Nat :=
  match month with
  | 2 => if isLeapYear year then 29 else 28
  | 4 | 6 | 9 | 11 => 30
  | _ => 31

/-- The days of a year before a month begins. -/
def daysBeforeMonth (year : Int) : Nat → Nat
  | 0 => 0
  | 1 => 0
  | month + 1 => daysBeforeMonth year month + daysInMonth year month

/-- What makes a year, a month and a day a date of the calendar. -/
def IsDate (year : Int) (month day : Nat) : Prop :=
  (-262143 ≤ year ∧ year ≤ 262142) ∧ (1 ≤ month ∧ month ≤ 12) ∧
    (1 ≤ day ∧ day ≤ daysInMonth year month)

instance (year : Int) (month day : Nat) : Decidable (IsDate year month day) :=
  inferInstanceAs (Decidable ((_ ∧ _) ∧ (_ ∧ _) ∧ (_ ∧ _)))

/-- A date of the calendar. -/
structure Date where
  year : Int
  month : Nat
  day : Nat
  isDate : IsDate year month day := by decide
  deriving DecidableEq

namespace Date

/-- The date with these parts, if the calendar has it. -/
def ofNumbers? (year : Int) (month day : Nat) : Option Date :=
  if isDate : IsDate year month day then some { year, month, day, isDate } else none

/-- Days up to and with a date, counted so that the first of January of the year 1 is day 1. -/
def dayNumber (d : Date) : Int :=
  let past := d.year - 1
  past * 365 + past / 4 - past / 100 + past / 400 + daysBeforeMonth d.year d.month + d.day

/-- The weekday: days whose number is a multiple of seven are Sundays. -/
def weekday (d : Date) : Weekday := .ofIndex (d.dayNumber % 7).toNat

/-- The day after, if the calendar goes that far. -/
def next? (d : Date) : Option Date :=
  ofNumbers? d.year d.month (d.day + 1) <|> ofNumbers? d.year (d.month + 1) 1 <|>
    ofNumbers? (d.year + 1) 1 1

/-- The date a number of days later, if the calendar goes that far. -/
def later? : Nat → Date → Option Date
  | 0, d => some d
  | n + 1, d => d.next?.bind (later? n)

/-- The date a number of days later; past the end of the calendar the date itself. -/
def later (n : Nat) (d : Date) : Date := (later? n d).getD d

/-- The next date that falls on a weekday, at least one day and at most a week ahead. -/
def nextOn (w : Weekday) (d : Date) : Date := d.later (d.weekday.daysUntil w)

end Date

end Agenda.Calendar
