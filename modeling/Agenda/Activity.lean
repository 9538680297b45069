import Agenda.CommandBar
import Agenda.Log.Session

/-!
What happens to the log of one process: configurations, commands that are interpreted, events from
elsewhere, and crashes, in any order. Only a configuration can start the log, and every other step
does nothing to it but add the events that the step causes.
-/

namespace Agenda.Activity
open Agenda.Calendar Agenda.Command Agenda.Log

/-- One step of a process. -/
inductive Step where
  | configure (level directory : String)
  | interpret (command : String) (now : Instant)
  | typed (now : Option String) (command : String)
  | spoken (now : Option String) (transcript : Service.Transcript)
  | event (e : Event)
  | crash (location : String) (payload : Session.Payload)

/-- The events that a step causes, besides the one that tells of the start of the log. -/
def Step.events (clock : Instant) : Step → List Event
  | .configure _ _ => []
  | .interpret command now => [interpretEvent command (Command.interpret command now)]
  | .typed now command => (CommandBar.interpretTyped clock now command).2
  | .spoken now transcript => (CommandBar.interpretSpoken clock now transcript).2
  | .event e => [e]
  | .crash location payload => [Session.crashEvent location payload]

/-- The log after a step. -/
def Step.logAfter (storage : Storage) (clock : Instant) (s : Session) : Step → Session
  | .configure level directory => (s.configure storage level directory).2
  | step => s.recordAll (step.events clock)

end Agenda.Activity
