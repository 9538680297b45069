/-!
Log events. An event has a severity, an origin and a message; a log keeps the events that are at
least as severe as its level. Text from outside that goes into a message is brought to one line and
to a bounded length.
-/

namespace Agenda.Log

/-- How severe an event is, and how severe an event must be to be kept. -/
inductive Level where
  | error | warn | info | debug | trace
  deriving DecidableEq

namespace Level

/-- The levels from the most to the least severe. -/
def all : List Level := [error, warn, info, debug, trace]

/-- The position among the levels; more severe levels come first. -/
def rank : Level → Nat
  | error => 0
  | warn => 1
  | info => 2
  | debug => 3
  | trace => 4

/-- The name by which a level is chosen. -/
def name : Level → String
  | error => "error"
  | warn => "warn"
  | info => "info"
  | debug => "debug"
  | trace => "trace"

/-- The name in front of an event. -/
def label : Level → String
  | error => "ERROR"
  | warn => "WARN"
  | info => "INFO"
  | debug => "DEBUG"
  | trace => "TRACE"

/-- Whether a log of this level keeps an event of another. -/
def keeps (threshold level : Level) : Bool := level.rank ≤ threshold.rank

end Level

/-- Something worth recording: metadata only, never the text of a command. -/
structure Event where
  level : Level
  origin : String
  message : String
  deriving DecidableEq

/-- What an event says, without the time and the place in the code that a log file may add. -/
def Event.line (e : Event) : String := s!"{e.level.label} [{e.origin}] {e.message}"

/-! ### Text from outside -/

/-- A line break becomes a space. -/
def flatten (c : Char) : Char := if c = '\n' ∨ c = '\r' then ' ' else c

/-- A text without line breaks, cut after a number of characters; three dots mark a cut. -/
def sanitizeChars (cs : List Char) (limit : Nat) : List Char :=
  let flat := cs.map flatten
  if limit < flat.length then flat.take limit ++ ['.', '.', '.'] else flat

/-- A text without line breaks, cut after a number of characters. -/
def sanitize (s : String) (limit : Nat) : String := String.ofList (sanitizeChars s.toList limit)

end Agenda.Log
