import Agenda.Build
import Agenda.Log.Event
import Agenda.Log.Storage

/-!
The log of one process. It is off until the first configuration that succeeds, and stays as that one
set it: the same level and directory are accepted again, others are refused. From then on every
event that is severe enough is recorded once, in order, the first being the one that tells of the
start.
-/

namespace Agenda.Log
open Agenda.Text

/-- The level and the directory that a log was started with. -/
structure Setup where
  level : Level
  directory : Directory
  deriving DecidableEq

/-- Why a configuration is not accepted. -/
inductive SetupError where
  | unknownLevel (name : String)
  | emptyDirectory
  | relativeDirectory (text : String)
  | notStarted (directory : Directory) (fault : StartFault)
  | otherDirectory (active asked : Directory)
  | otherLevel (active asked : Level)
  deriving DecidableEq

/-- The wording of a setup error. -/
def SetupError.message : SetupError → String
  | .unknownLevel name =>
    s!"unsupported log level `{name}`; expected trace|debug|info|warn|error"
  | .emptyDirectory => "log_dir cannot be empty"
  | .relativeDirectory text => s!"log_dir must be an absolute path, got `{text}`"
  | .notStarted d (.directory reason) => s!"failed to create log directory `{d.text}`: {reason}"
  | .notStarted _ (.backend reason) => s!"failed to start logger: {reason}"
  | .otherDirectory active asked =>
    s!"logging already initialized at `{active.text}`; refusing to switch to `{asked.text}`"
  | .otherLevel active asked =>
    s!"logging already initialized with level `{active.name}`; refusing to switch to `{asked.name}`"

/-- The level with a name, in any ASCII letter case and between blanks. -/
def Level.ofText (text : String) : Except SetupError Level :=
  let name := (trimmed text).map Char.toLower
  if name = "warning" then .ok .warn
  else
    match Level.all.find? fun level => level.name == name with
    | some level => .ok level
    | none => .error (.unknownLevel name)

/-- The absolute directory that a text names between blanks. -/
def Directory.ofText (text : String) : Except SetupError Directory :=
  let text := trimmed text
  if text = "" then .error .emptyDirectory
  else
    match Directory.ofText? text with
    | some d => .ok d
    | none => .error (.relativeDirectory text)

/-- The level and the directory that two texts ask for. -/
def Setup.ofTexts (level directory : String) : Except SetupError Setup := do
  let level ← Level.ofText level
  let directory ← Directory.ofText directory
  .ok { level, directory }

/-- The log of a process: its setup, once there is one, and the events recorded since. -/
structure Session where
  setup : Option Setup := none
  recorded : List Event := []
  deriving DecidableEq

namespace Session

/-- Where the events of the log itself come from. -/
def origin : String := "timeflow_core::logging"

/-- The event that tells of the start of the log. -/
def startEvent (s : Setup) : Event where
  level := .info
  origin := origin
  message :=
    s!"event=core_init module=core status=ok platform={Build.platform} build_mode={Build.mode} " ++
      s!"version={Build.version} level={s.level.name} log_dir={s.directory.text}"

/-- Takes note of an event: it is recorded if the log is on and its level keeps the event. -/
def record (s : Session) (e : Event) : Session :=
  match s.setup with
  | some setup => if setup.level.keeps e.level then { s with recorded := s.recorded ++ [e] } else s
  | none => s

/-- Takes note of events in order. -/
def recordAll (s : Session) (events : List Event) : Session := events.foldl record s

/-- What a configuration that asks for one setup while another is active comes to. -/
def compareSetups (active asked : Setup) : Except SetupError Unit :=
  if !active.directory.same asked.directory then
    .error (.otherDirectory active.directory asked.directory)
  else if active.level ≠ asked.level then .error (.otherLevel active.level asked.level)
  else .ok ()

/-- Configures the log. -/
def configure (storage : Storage) (level directory : String) (s : Session) :
    Except SetupError Unit × Session :=
  match Setup.ofTexts level directory with
  | .error e => (.error e, s)
  | .ok asked =>
    match s.setup with
    | some active => (compareSetups active asked, s)
    | none =>
      match storage asked.directory with
      | some fault => (.error (.notStarted asked.directory fault), s)
      | none => (.ok (), { s with setup := some asked }.record (startEvent asked))

/-- What a crash leaves behind: a text, or something that cannot be shown. -/
inductive Payload where
  | text (value : String)
  | other
  deriving DecidableEq

/-- A payload in at most 160 characters and a mark, on one line. -/
def Payload.summary : Payload → String
  | .text value => sanitize value 160
  | .other => sanitize "non-string panic payload" 160

/-- The event that tells of a crash. -/
def crashEvent (location : String) (payload : Payload) : Event where
  level := .error
  origin := origin
  message :=
    s!"event=panic_captured module=core status=error location={location} " ++
      s!"payload={payload.summary}"

/-- The name of the file with the recorded events. -/
def fileName : String := "timeflow_rCURRENT.log"

/-- The path of the file with the recorded events; there is none before the first event. -/
def filePath? (s : Session) : Option String :=
  match s.setup with
  | some setup => if s.recorded.isEmpty then none else some (setup.directory.file fileName)
  | none => none

end Session

end Agenda.Log
