import Agenda.CommandLine.Options
import Agenda.Draft.Wire
import Agenda.Json.Pretty
import Agenda.Log.Session
import Agenda.Service.Commands

/-!
Running the program once: it reads its arguments, starts a log if a directory is named, interprets
the command and prints the draft, as text or as JSON. The exit code tells how far it came: 2 for the
arguments, 1 for the log, 3 for a blank command, 0 for a draft.
-/

namespace Agenda.CommandLine
open Agenda.Calendar Agenda.Command Agenda.Log

/-- What a run leaves: an exit code, output and error output, and the log. -/
structure Result where
  exitCode : Nat
  output : String
  errors : String
  log : Session := {}

/-- A draft in four lines of text. -/
def draftText (d : Draft) : String :=
  s!"title: {d.title}\ndate:  {d.date.text}\ntime:  {d.start.text}-{d.finish.text}\n" ++
    s!"note:  {d.note}"

/-- A draft as it is printed, without the line feed at the end. -/
def render (d : Draft) (json : Bool) : String := if json then d.toJson.pretty else draftText d

/-- The line that shows how the program is called. -/
def usageLine : String := s!"Usage: {Build.program} [OPTIONS] <TEXT>...\n"

/-- The help text. -/
def helpText : String :=
  "Turn a free-text scheduling command into a draft entry\n\n" ++ usageLine ++
    "\nArguments:\n" ++
    "  <TEXT>...  Command text, e.g. Meeting tomorrow at 3pm\n" ++
    "\nOptions:\n" ++
    "      --now <NOW>              Reference instant as local wall-clock " ++
    "YYYY-MM-DDTHH:MM:SS (default: now)\n" ++
    "      --json                   Output in JSON format for scripting\n" ++
    "      --log-dir <LOG_DIR>      Absolute directory for rolling log files " ++
    "(logging is off when unset) [env: TIMEFLOW_LOG_DIR=]\n" ++
    "      --log-level <LOG_LEVEL>  Log level: trace|debug|info|warn|error " ++
    "[env: TIMEFLOW_LOG_LEVEL=]\n" ++
    "  -h, --help                   Print help\n" ++
    "  -V, --version                Print version\n"

/-- The result where the arguments are not a command to run. -/
def Stop.result : Stop → Result
  | .help => { exitCode := 0, output := helpText, errors := "" }
  | .version => { exitCode := 0, output := s!"{Build.program} {Build.version}\n", errors := "" }
  | .usage error =>
    { exitCode := 2
      output := ""
      errors := s!"error: {error.message}\n\n{usageLine}\nFor more information, try '--help'.\n" }

/-- Where the events of the program itself come from. -/
def origin : String := "timeflow"

/-- The event that tells of the start of a run. -/
def startEvent (level : Level) (json : Bool) : Event :=
  ⟨.info, origin, s!"event=cli_start module=cli status=ok level={level.name} json={json}"⟩

/-- The event for a command without a draft. -/
def noMatchEvent : Event := ⟨.info, origin, "event=cli_interpret module=cli status=no_match"⟩

/-- The setup of the log that the options ask for, if they ask for one that is possible. -/
def Options.logSetup? (o : Options) : Option Setup :=
  o.logDir.bind fun directory =>
    (Setup.ofTexts (o.logLevel.getD Build.defaultLogLevel.name) directory).toOption

/-- Starts the log that the options ask for. -/
def Options.startLog (o : Options) (storage : Storage) : Except SetupError Session :=
  match o.logDir with
  | none => .ok {}
  | some directory =>
    match Session.configure storage (o.logLevel.getD Build.defaultLogLevel.name) directory {} with
    | (.ok (), log) =>
      .ok (log.recordAll (log.setup.toList.map fun setup => startEvent setup.level o.json))
    | (.error e, _) => .error e

/-- Interprets the command and prints its draft. -/
def Options.run (o : Options) (clock : Instant) (log : Session) : Result :=
  let command := String.intercalate " " o.words
  let interpretation := interpret command (o.now.getD clock)
  let log := log.record (interpretEvent command interpretation)
  match interpretation with
  | some i => { exitCode := 0, output := render i.draft o.json ++ "\n", errors := "", log }
  | none =>
    { exitCode := 3, output := "", errors := Service.retryHint ++ "\n"
      log := log.record noMatchEvent }

/-- Runs the program. -/
def run (arguments : List String) (environment : Environment) (storage : Storage)
    (clock : Instant) : Result :=
  match Options.ofArguments arguments environment with
  | .error stop => stop.result
  | .ok o =>
    match o.startLog storage with
    | .error e => { exitCode := 1, output := "", errors := s!"error: {e.message}\n" }
    | .ok log => o.run clock log

end Agenda.CommandLine
