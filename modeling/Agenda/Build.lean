import Agenda.Log.Event

/-!
Facts about the program as a whole.
-/

namespace Agenda.Build

/-- The version of the program. -/
def version : String := "0.1.0"

/-- The name of the program. -/
def program : String := "timeflow"

/-- The system it runs on. -/
def platform : String := "linux"

/-- How it was built. -/
def mode : String := "debug"

/-- The log level where none is chosen. -/
def defaultLogLevel : Log.Level := .debug

/-- The answer to whether the program is there. -/
def ping : String := "pong"

end Agenda.Build
