import Agenda.Calendar.Date
import Agenda.Calendar.TimeOfDay
import Agenda.Text.Blank

/-!
Drafts of schedule entries. A draft has no identity yet; whoever stores it gives it one. A valid
draft has a title that is not blank and takes exactly one hour.
-/

namespace Agenda
open Agenda.Calendar

/-- An entry that has not been stored yet. -/
structure Draft where
  title : String
  date : Date
  start : TimeOfDay
  finish : TimeOfDay
  color : String
  note : String
  deriving DecidableEq

namespace Draft

/-- The color of drafts that were made from a command. -/
def commandColor : String := "bg-indigo-500"

/-- The note of drafts that were made from a command. -/
def commandNote : String := "Scheduled via AI Command Center"

/-- A draft made from a command: one hour, with the color and the note that mark it as such. -/
def ofCommand (title : String) (date : Date) (start : TimeOfDay) : Draft where
  title := title
  date := date
  start := start
  finish := start.plusOneHour
  color := commandColor
  note := commandNote

/-- What can be wrong with a draft. -/
inductive Fault where
  | blankTitle
  | notOneHour (start finish : TimeOfDay)
  deriving DecidableEq

/-- The wording of a fault. -/
def Fault.message : Fault → String
  | .blankTitle => "draft title must not be empty"
  | .notOneHour start finish =>
    s!"draft end_time ({finish.text}) must be one hour after start_time ({start.text})"

/-- The first thing that is wrong with a draft. -/
def fault? (d : Draft) : Option Fault :=
  if Text.isBlankText d.title then some .blankTitle
  else if d.finish = d.start.plusOneHour then none
  else some (.notOneHour d.start d.finish)

/-- Whether a draft bears the marks of one made from a command. -/
def isFromCommand (d : Draft) : Bool := d.color == commandColor && d.note == commandNote

/-- The line that confirms a stored draft. -/
def confirmation (d : Draft) : String := s!"Scheduled: {d.title} at {d.start.text}"

end Draft

end Agenda
