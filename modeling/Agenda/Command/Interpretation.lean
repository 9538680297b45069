import Agenda.Calendar.Instant
import Agenda.Command.Cue
import Agenda.Command.TimeMention
import Agenda.Command.Title
import Agenda.Draft
import Agenda.Log.Event

/-!
Interpreting a command: the cue gives the date, the mention of a time gives the start, and the rest
gives the title. Only a blank command has no interpretation, and the result depends on the instant
by its date alone.
-/

namespace Agenda.Command
open Agenda.Calendar Agenda.Text Agenda.Log

/-- A draft and what it was read from. -/
structure Interpretation where
  draft : Draft
  cue : Cue
  matched : Option String
  deriving DecidableEq

/-- What a command that is not blank means. -/
def interpretText (text : List Char) (now : Instant) : Interpretation :=
  let cue := Cue.find text
  let mention := TimeMention.find text
  let rest := match mention with
    | some m => m.rest
    | none => text
  { draft := .ofCommand (Title.ofRest rest) (cue.date now.date) (TimeMention.start mention)
    cue := cue
    matched := mention.map fun m => String.ofList m.matched }

/-- What a command means; nothing if it is blank. -/
def interpret (command : String) (now : Instant) : Option Interpretation :=
  if isBlankText command then none else some (interpretText command.toList now)

/-- The draft that a command stands for. -/
def draft? (command : String) (now : Instant) : Option Draft :=
  (interpret command now).map (·.draft)

/-- The event that interpreting a command causes; it tells no word of the command. -/
def interpretEvent (command : String) (result : Option Interpretation) : Event where
  level := .debug
  origin := "timeflow_core::command::interpreter"
  message := match result with
    | none => "event=command_interpret module=command status=no_match reason=blank_input"
    | some i =>
      s!"event=command_interpret module=command status=ok date_cue={i.cue.label} " ++
        s!"has_time={i.matched.isSome} input_chars={command.length}"

end Agenda.Command
