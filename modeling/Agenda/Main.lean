import Agenda.CommandLine.Run
import Std.Time.Format

/-!
The program on its system: arguments, environment, clock and files go into one run, and what the run
leaves goes out. Everything it decides is decided by the run.
-/

namespace Agenda
open Agenda.Calendar Agenda.CommandLine Agenda.Log

/-- The present by the system's clock, in local time. -/
def systemClock : IO Instant := do
  let now ← Std.Time.PlainDateTime.now
  let instant? := Instant.ofNumbers? now.date.year now.date.month.val.toNat
    now.date.day.val.toNat now.time.hour.val.toNat now.time.minute.val.toNat
    (min now.time.second.val.toNat 59)
  match instant? with
  | some instant => return instant
  | none => throw (IO.userError "the clock shows no date of the calendar")

/-- Makes a directory and tells what stands in the way. -/
def makeDirectory (directory : Directory) : IO (Option StartFault) := do
  match Storage.plain directory with
  | some fault => return some fault
  | none =>
    try
      IO.FS.createDirAll directory.text
      return none
    catch e => return some (.directory (toString e))

/-- The storage of the system, as far as the directory that the options name. -/
def systemStorage (options : Except Stop Options) : IO Storage := do
  let setup? := options.toOption.bind (·.logSetup?)
  let fault? ← match setup? with
    | some setup => makeDirectory setup.directory
    | none => pure none
  return fun _ => fault?

/-- Writes the recorded events at the end of the log file, each behind the time of writing. -/
def writeLog (log : Session) : IO Unit := do
  match log.filePath? with
  | some path =>
    let stamp := (← Std.Time.DateTime.now).format "uuuu-MM-dd HH:mm:ss.SSSSSS xxx"
    IO.FS.withFile path .append fun file =>
      log.recorded.forM fun e => file.putStrLn s!"[{stamp}] {e.line}"
  | none => return

/-- One run of the program, with its exit code. -/
def program (arguments : List String) : IO UInt32 := do
  let environment : Environment :=
    { logDir := ← IO.getEnv "TIMEFLOW_LOG_DIR", logLevel := ← IO.getEnv "TIMEFLOW_LOG_LEVEL" }
  let storage ← systemStorage (Options.ofArguments arguments environment)
  let result := run arguments environment storage (← systemClock)
  (← IO.getStdout).putStr result.output
  (← IO.getStderr).putStr result.errors
  writeLog result.log
  return UInt32.ofNat result.exitCode

end Agenda

/-- Runs the program once. -/
def main (arguments : List String) : IO UInt32 := Agenda.program arguments
