import Agenda.Service.Commands

/-!
Runs of the service over the ledger: commands, spoken text, and the gateway failing and recovering,
in any order.
-/

namespace Agenda.Service
open Agenda.Calendar Agenda.Log

/-- One step of a run. -/
inductive Step where
  | command (text : String) (now : Instant)
  | transcript (spoken : Transcript) (now : Instant)
  | fail (error : GatewayError)
  | recover

/-- The reply to a command, and no reply to the other steps. -/
def Step.reply? (ledger : Ledger) : Step → Option (Reply Ledger)
  | .command text now => some (handleCommand Ledger.gateway text now ledger)
  | .transcript spoken now => some (handleTranscript Ledger.gateway spoken now ledger)
  | .fail _ => none
  | .recover => none

/-- The ledger after a step. -/
def Step.ledgerAfter (ledger : Ledger) : Step → Ledger
  | .command text now => (handleCommand Ledger.gateway text now ledger).state
  | .transcript spoken now => (handleTranscript Ledger.gateway spoken now ledger).state
  | .fail error => { ledger with failure := some error }
  | .recover => { ledger with failure := none }

/-- The ledger after a run. -/
def ledgerAfter (ledger : Ledger) (steps : List Step) : Ledger :=
  steps.foldl Step.ledgerAfter ledger

/-- The replies of a run, one for each step. -/
def replies : Ledger → List Step → List (Option (Reply Ledger))
  | _, [] => []
  | ledger, step :: steps => step.reply? ledger :: replies (step.ledgerAfter ledger) steps

/-- The events of a run in order. -/
def eventsOf (ledger : Ledger) (steps : List Step) : List Event :=
  (replies ledger steps).flatMap fun reply => (reply.map (·.events)).getD []

end Agenda.Service
