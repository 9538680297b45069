import Agenda.Build
import Agenda.Calendar.Instant

/-!
The command line: words of a command, options with a value, and flags, in any order. A value may be
attached by an equals sign or be the next argument; then it is looked at only when the next option,
flag or word has been recognised, or at the end. After two hyphens every argument is a word. The
first error in that order counts.
-/

namespace Agenda.CommandLine
open Agenda.Calendar

/-- The options that take a value. -/
inductive Valued where
  | now | logDir | logLevel
  deriving DecidableEq

namespace Valued

/-- The name without its hyphens. -/
def name : Valued → String
  | now => "now"
  | logDir => "log-dir"
  | logLevel => "log-level"

/-- How messages write the option with its value. -/
def usage : Valued → String
  | now => "--now <NOW>"
  | logDir => "--log-dir <LOG_DIR>"
  | logLevel => "--log-level <LOG_LEVEL>"

/-- The option with a name. -/
def ofName? (name : String) : Option Valued := [now, logDir, logLevel].find? (·.name == name)

end Valued

/-- The flags. -/
inductive Flag where
  | json | help | version
  deriving DecidableEq

namespace Flag

/-- The name without its hyphens. -/
def name : Flag → String
  | json => "json"
  | help => "help"
  | version => "version"

/-- The flag with a name. -/
def ofName? (name : String) : Option Flag := [json, help, version].find? (·.name == name)

/-- The flag with a single letter. -/
def ofLetter? : Char → Option Flag
  | 'h' => some help
  | 'V' => some version
  | _ => none

end Flag

/-- Why arguments are not accepted. -/
inductive UsageError where
  | unexpectedArgument (argument : String)
  | valueMissing (option : Valued)
  | valueUnexpected (value : String) (flag : Flag)
  | repeated (usage : String)
  | badNow (value : String) (error : TextError)
  | wordsMissing
  deriving DecidableEq

/-- The wording of a usage error. -/
def UsageError.message : UsageError → String
  | .unexpectedArgument argument => s!"unexpected argument '{argument}' found"
  | .valueMissing option => s!"a value is required for '{option.usage}' but none was supplied"
  | .valueUnexpected value flag =>
    s!"unexpected value '{value}' for '--{flag.name}' found; no more were expected"
  | .repeated usage => s!"the argument '{usage}' cannot be used multiple times"
  | .badNow value error =>
    s!"invalid value '{value}' for '{Valued.now.usage}': expected YYYY-MM-DDTHH:MM:SS: " ++
      error.message
  | .wordsMissing => "the following required arguments were not provided:\n  <TEXT>..."

/-- What ends the reading of arguments before a command is run. -/
inductive Stop where
  | help
  | version
  | usage (error : UsageError)
  deriving DecidableEq

/-- The options that have been read. -/
structure Options where
  words : List String := []
  now : Option Instant := none
  json : Bool := false
  logDir : Option String := none
  logLevel : Option String := none
  deriving DecidableEq

/-- The form of an argument. -/
inductive Argument where
  | separator
  | long (name : String) (attached : Option String)
  | letter (c : Char)
  | plain (text : String)
  deriving DecidableEq

/-- The form of an argument; of several letters behind one hyphen the first one decides. -/
def Argument.ofText (text : String) : Argument :=
  match text.toList with
  | '-' :: '-' :: [] => .separator
  | '-' :: '-' :: cs =>
    .long (String.ofList (cs.takeWhile (· != '=')))
      (match cs.dropWhile (· != '=') with
      | [] => none
      | _ :: value => some (String.ofList value))
  | '-' :: c :: _ => .letter c
  | _ => .plain text

/-- The options so far, and an option whose detached value is still to come or to be looked at. -/
structure Progress where
  options : Options := {}
  pending : Option (Valued × Option String) := none

namespace Options

/-- Sets an option to a value, which is possible once. -/
def set (o : Options) (value : String) : Valued → Except Stop Options
  | .now =>
    if o.now.isSome then .error (.usage (.repeated Valued.now.usage))
    else
      match Instant.ofText value with
      | .ok instant => .ok { o with now := some instant }
      | .error error => .error (.usage (.badNow value error))
  | .logDir =>
    if o.logDir.isSome then .error (.usage (.repeated Valued.logDir.usage))
    else .ok { o with logDir := some value }
  | .logLevel =>
    if o.logLevel.isSome then .error (.usage (.repeated Valued.logLevel.usage))
    else .ok { o with logLevel := some value }

/-- Raises a flag; help and version end the reading. -/
def raise (o : Options) : Flag → Except Stop Options
  | .json =>
    if o.json then .error (.usage (.repeated ("--" ++ Flag.json.name)))
    else .ok { o with json := true }
  | .help => .error .help
  | .version => .error .version

end Options

namespace Progress

/-- The options once the pending one has been set. -/
def settle (p : Progress) : Except Stop Options :=
  match p.pending with
  | none => .ok p.options
  | some (option, none) => .error (.usage (.valueMissing option))
  | some (option, some value) => p.options.set value option

/-- Adds a word to the command. -/
def addWord (p : Progress) (word : String) : Except Stop Progress := do
  let o ← p.settle
  .ok { options := { o with words := o.words ++ [word] } }

/-- Takes one argument in front of the separator. -/
def take (p : Progress) : Argument → Except Stop Progress
  | .separator => .ok p
  | .plain text =>
    match p.pending with
    | some (option, none) => .ok { p with pending := some (option, some text) }
    | _ => p.addWord text
  | .letter c =>
    match Flag.ofLetter? c with
    | some flag => do .ok { options := ← (← p.settle).raise flag }
    | none => .error (.usage (.unexpectedArgument (String.ofList ['-', c])))
  | .long name attached =>
    match Valued.ofName? name, Flag.ofName? name, attached with
    | some option, _, some value => do .ok { options := ← (← p.settle).set value option }
    | some option, _, none => do .ok { options := ← p.settle, pending := some (option, none) }
    | none, some flag, some value => .error (.usage (.valueUnexpected value flag))
    | none, some flag, none => do .ok { options := ← (← p.settle).raise flag }
    | none, none, _ => .error (.usage (.unexpectedArgument ("--" ++ name)))

/-- Takes arguments in order. -/
def takeAll (p : Progress) : List String → Except Stop Progress
  | [] => .ok p
  | text :: rest =>
    match Argument.ofText text with
    | .separator => rest.foldlM addWord p
    | argument => do (← p.take argument).takeAll rest

end Progress

/-- Values that the environment gives for options that are not set. -/
structure Environment where
  logDir : Option String := none
  logLevel : Option String := none

/-- The options with the values of the environment where they are not set. -/
def Options.withEnvironment (o : Options) (e : Environment) : Options :=
  { o with logDir := o.logDir <|> e.logDir, logLevel := o.logLevel <|> e.logLevel }

/-- Reads a command line; a command has at least one word. -/
def Options.ofArguments (arguments : List String) (e : Environment) : Except Stop Options := do
  let o ← (← Progress.takeAll {} arguments).settle
  if o.words.isEmpty then .error (.usage .wordsMissing) else .ok (o.withEnvironment e)

end Agenda.CommandLine
