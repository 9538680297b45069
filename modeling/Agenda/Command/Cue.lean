import Agenda.Calendar.Date
import Agenda.Text.Caseless
import Agenda.Text.Lowercase

/-!
The day that a command asks for. The cues are `tomorrow`, `next week` and the weekday names, looked
for anywhere in the lower-cased text, inside longer words as well. A weekday beats the other cues,
the last one of the week beats those before it, and `tomorrow` beats `next week`.
-/

namespace Agenda.Command
open Agenda.Calendar Agenda.Text

/-- What decides the date of a draft. -/
inductive Cue where
  | today
  | tomorrow
  | nextWeek
  | weekday (day : Weekday)
  deriving DecidableEq

namespace Cue

/-- The name of a cue in the log. -/
def label : Cue → String
  | today => "today"
  | tomorrow => "tomorrow"
  | nextWeek => "next_week"
  | weekday _ => "weekday"

/-- The weekdays whose names stand in a lower-cased text, in the order of the week. -/
def weekdaysIn (lower : List Char) : List Weekday :=
  Weekday.all.filter fun day => occurs day.name.toList lower

/-- The cue whose words stand in a lower-cased text. -/
def ofLower (lower : List Char) : Cue :=
  match (weekdaysIn lower).getLast? with
  | some day => weekday day
  | none =>
    if occurs "tomorrow".toList lower then tomorrow
    else if occurs "next week".toList lower then nextWeek
    else today

/-- The cue in a text. -/
def find (text : List Char) : Cue := ofLower (lowercase text)

/-- The date a cue stands for; past the end of the calendar it is today's. -/
def date (today : Date) : Cue → Date
  | .today => today
  | tomorrow => today.later 1
  | nextWeek => today.later 7
  | weekday day => today.nextOn day

end Cue

end Agenda.Command
