import Agenda.Command.Interpretation
import Agenda.Service.Gateway

/-!
Handling commands: a command is interpreted, its draft is checked and handed to a gateway, and the
outcome has a line for the user. Spoken text is handled once it is final, never while it may still
change. Nothing is kept between commands but the state of the gateway.
-/

namespace Agenda.Service
open Agenda.Calendar Agenda.Command Agenda.Log

/-- The hint for a command that is not understood. -/
def retryHint : String := "Couldn't understand the command. Try 'Meeting tomorrow at 3pm'"

/-- What became of a command. -/
inductive Outcome where
  | scheduled (id : EntryId) (draft : Draft)
  | notUnderstood
  deriving DecidableEq

/-- The line for the user. -/
def Outcome.feedback : Outcome → String
  | .scheduled _ draft => draft.confirmation
  | .notUnderstood => retryHint

/-- Why a command was not carried out. -/
inductive CommandError where
  | notFinal
  | invalidDraft (fault : Draft.Fault)
  | gateway (error : GatewayError)
  deriving DecidableEq

/-- An error of another kind that lies behind a command error. -/
inductive Cause where
  | draft (fault : Draft.Fault)
  | gateway (error : GatewayError)
  deriving DecidableEq

/-- The wording of a cause. -/
def Cause.message : Cause → String
  | .draft fault => fault.message
  | .gateway error => error.message

/-- What lies behind a command error. -/
def CommandError.cause? : CommandError → Option Cause
  | .notFinal => none
  | .invalidDraft fault => some (.draft fault)
  | .gateway error => some (.gateway error)

/-- What lies behind a command error, in words. -/
def CommandError.source? (e : CommandError) : Option String := e.cause?.map Cause.message

/-- The wording of a command error. -/
def CommandError.message : CommandError → String
  | .notFinal => "interim transcripts cannot be scheduled"
  | .invalidDraft fault => fault.message
  | .gateway error => error.message

/-- The result of a command, the events on the way, and the state of the gateway afterwards. -/
structure Reply (σ : Type) where
  result : Except CommandError Outcome
  events : List Event
  state : σ

/-- Where the events of the service come from. -/
def origin : String := "timeflow_core::service::command_service"

/-- The event for the end of a command, if it gets as far as the gateway or has no meaning. -/
def handleEvent? : Except CommandError Outcome → Option Event
  | .ok .notUnderstood =>
    some ⟨.info, origin, "event=command_handle module=service status=not_understood"⟩
  | .ok (.scheduled id _) =>
    some ⟨.info, origin, s!"event=command_handle module=service status=ok entry_id={id.text}"⟩
  | .error (.gateway error) =>
    some ⟨.warn, origin,
      s!"event=command_handle module=service status=error stage=submit error={error.message}"⟩
  | .error _ => none

variable {σ : Type}

/-- Checks a draft and hands it to a gateway. -/
def submit (g : Gateway σ) (draft : Draft) (state : σ) : Except CommandError Outcome × σ :=
  match draft.fault? with
  | some fault => (.error (.invalidDraft fault), state)
  | none =>
    match g.submit draft state with
    | (.ok id, state) => (.ok (.scheduled id draft), state)
    | (.error error, state) => (.error (.gateway error), state)

/-- Handles a typed command. -/
def handleCommand (g : Gateway σ) (command : String) (now : Instant) (state : σ) : Reply σ :=
  let interpretation := interpret command now
  let (result, state) := match interpretation with
    | none => (.ok .notUnderstood, state)
    | some i => submit g i.draft state
  { result := result
    events := interpretEvent command interpretation :: (handleEvent? result).toList
    state := state }

/-- What a speech session makes of an utterance, and whether it may still change. -/
structure Transcript where
  text : String
  isFinal : Bool

/-- Handles a spoken command. -/
def handleTranscript (g : Gateway σ) (spoken : Transcript) (now : Instant) (state : σ) : Reply σ :=
  if spoken.isFinal then handleCommand g spoken.text now state
  else { result := .error .notFinal, events := [], state := state }

end Agenda.Service
