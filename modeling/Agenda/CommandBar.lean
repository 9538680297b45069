import Agenda.Log.Session
import Agenda.Service.Commands

/-!
The command bar: typed and spoken commands become a response that can be shown as it is. Drafts are
not stored here. The present may be given as text; a text that is no instant is a failure, and
without one the clock's time is taken. The log is configured from here as well.
-/

namespace Agenda.CommandBar
open Agenda.Calendar Agenda.Command Agenda.Log Agenda.Service Agenda.Text

/-- The texts of a draft. -/
structure DraftTexts where
  title : String
  date : String
  start : String
  finish : String
  color : String
  note : String
  deriving DecidableEq

/-- What the command bar shows: the texts of a draft if there is one, and a message. -/
structure Response where
  draft : Option DraftTexts
  message : String
  deriving DecidableEq

namespace Response

/-- Whether there is a draft. -/
def ok (r : Response) : Bool := r.draft.isSome

/-- The response with a draft. -/
def ofDraft (d : Draft) : Response where
  draft := some
    { title := d.title
      date := d.date.text
      start := d.start.text
      finish := d.finish.text
      color := d.color
      note := d.note }
  message := d.confirmation

/-- The response without a draft. -/
def failure (message : String) : Response := { draft := none, message }

end Response

/-- The message while an utterance may still change. -/
def listening : String := "Still listening... waiting for the final transcript."

/-- The event for a present that cannot be read; it does not repeat the text. -/
def invalidNowEvent : Event where
  level := .warn
  origin := "timeflow_ffi::api"
  message := "event=ffi_interpret module=ffi status=error reason=invalid_now_local"

/-- The present: the clock's if no text or a blank one is given, or the message that refuses it. -/
def resolveNow (clock : Instant) : Option String → Except String Instant
  | none => .ok clock
  | some text =>
    if isBlankText text then .ok clock
    else
      (Instant.ofText text).mapError fun error =>
        s!"interpret_command failed: invalid now_local `{trimmed text}`: {error.message}"

/-- Interprets a typed command; the events on the way come with the response. -/
def interpretTyped (clock : Instant) (now : Option String) (command : String) :
    Response × List Event :=
  match resolveNow clock now with
  | .error message => (.failure message, [invalidNowEvent])
  | .ok now =>
    let interpretation := interpret command now
    let response := match interpretation with
      | some i => .ofDraft i.draft
      | none => .failure retryHint
    (response, [interpretEvent command interpretation])

/-- Interprets a spoken command, if it is final. -/
def interpretSpoken (clock : Instant) (now : Option String) (spoken : Transcript) :
    Response × List Event :=
  if spoken.isFinal then interpretTyped clock now spoken.text
  else (.failure listening, [])

/-- Configures the log; the answer is empty if that is accepted, else it says why it is not. -/
def configureLog (storage : Storage) (level directory : String) (s : Session) : String × Session :=
  match s.configure storage level directory with
  | (.ok (), s) => ("", s)
  | (.error e, s) => (e.message, s)

end Agenda.CommandBar
