import Agenda.Calendar.DateText
import Agenda.Calendar.TimeOfDay

/-!
Instants of local wall-clock time, written `YYYY-MM-DDTHH:MM:SS`. Only the date of an instant has
any influence on a draft.
-/

namespace Agenda.Calendar
open Agenda.Text

/-- A date, a time of day and a second; second 60 is a leap second. -/
structure Instant where
  date : Date
  time : TimeOfDay
  second : Nat
  second_le : second ≤ 60 := by decide
  deriving DecidableEq

namespace Instant

/-- The instant with these parts, if date and time of day exist; a leap second is not accepted. -/
def ofNumbers? (year : Int) (month day hour minute second : Nat) : Option Instant := do
  let date ← Date.ofNumbers? year month day
  let time ← (TimeOfDay.ofNumbers hour minute).toOption
  if second_lt : second < 60 then some { date, time, second, second_le := by omega } else none

/-- Reads an instant that makes up a whole text; blanks may stand before each number. -/
def ofChars (cs : List Char) : Except TextError Instant := do
  let (parts, cs) ← readDay id cs
  let cs ← readMark 'T' cs
  let (hour, cs) ← readField 0 23 cs
  let cs ← readMark ':' cs
  let (minute, cs) ← readField 0 59 cs
  let cs ← readMark ':' cs
  let (second, cs) ← readField 0 60 cs
  if !cs.isEmpty then .error .trailing
  let date ← Date.ofParts parts
  match TimeOfDay.ofNumbers hour minute with
  | .ok time =>
    if second_le : second ≤ 60 then .ok { date, time, second, second_le } else .error .outOfRange
  | .error _ => .error .outOfRange

/-- Reads an instant from a text without the blanks at its ends. -/
def ofText (s : String) : Except TextError Instant := ofChars (trim s.toList)

end Instant

end Agenda.Calendar
