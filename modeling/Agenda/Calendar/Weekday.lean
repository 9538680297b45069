/-!
The days of the week, Sunday first.
-/

namespace Agenda.Calendar

/-- A day of the week. -/
inductive Weekday where
  | sunday | monday | tuesday | wednesday | thursday | friday | saturday
  deriving DecidableEq

namespace Weekday

/-- The week from Sunday to Saturday. -/
def all : List Weekday := [sunday, monday, tuesday, wednesday, thursday, friday, saturday]

/-- The English name in lower case. -/
def name : Weekday → String
  | sunday => "sunday"
  | monday => "monday"
  | tuesday => "tuesday"
  | wednesday => "wednesday"
  | thursday => "thursday"
  | friday => "friday"
  | saturday => "saturday"

/-- Days since Sunday. -/
def index : Weekday → Nat
  | sunday => 0
  | monday => 1
  | tuesday => 2
  | wednesday => 3
  | thursday => 4
  | friday => 5
  | saturday => 6

/-- The weekday that many days after a Sunday. -/
def ofIndex (n : Nat) : Weekday :=
  match n % 7 with
  | 0 => sunday
  | 1 => monday
  | 2 => tuesday
  | 3 => wednesday
  | 4 => thursday
  | 5 => friday
  | _ => saturday

/-- Days from one weekday to the next occurrence of another; a whole week to itself. -/
def daysUntil (current target : Weekday) : Nat :=
  match (7 + target.index - current.index) % 7 with
  | 0 => 7
  | days => days

theorem daysUntil_pos (current target : Weekday) : 0 < current.daysUntil target := by
  cases current <;> cases target <;> decide

theorem daysUntil_le (current target : Weekday) : current.daysUntil target ≤ 7 := by
  cases current <;> cases target <;> decide

end Weekday

end Agenda.Calendar
