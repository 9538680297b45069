import Agenda.Draft
import Agenda.Text.Digits

/-!
Gateways, which store drafts and give them an identity. A gateway has a state and answers each draft
with an identifier or an error. The ledger is a gateway that keeps the drafts it accepts and numbers
them from one, and that can be told to fail.
-/

namespace Agenda.Service
open Agenda.Text

/-- The identifier of a stored entry. -/
structure EntryId where
  value : BitVec 128
  deriving DecidableEq

/-- An identifier in hexadecimal, in groups of 8, 4, 4, 4 and 12 digits. -/
def EntryId.text (id : EntryId) : String :=
  let ds := paddedHex 32 id.value.toNat
  let group (start length : Nat) : List Char := (ds.drop start).take length
  String.ofList (group 0 8 ++ '-' :: group 8 4 ++ '-' :: group 12 4 ++ '-' :: group 16 4 ++
    '-' :: group 20 12)

/-- Why a gateway did not store a draft. -/
inductive GatewayError where
  | unavailable (details : String)
  | rejected (details : String)
  deriving DecidableEq

/-- The wording of a gateway error. -/
def GatewayError.message : GatewayError → String
  | .unavailable details => s!"schedule store unavailable: {details}"
  | .rejected details => s!"schedule store rejected draft: {details}"

/-- A gateway with states of some type. -/
structure Gateway (σ : Type) where
  submit : Draft → σ → Except GatewayError EntryId × σ

/-- Accepted drafts in order, and the error with which drafts are refused at present. -/
structure Ledger where
  accepted : List Draft := []
  failure : Option GatewayError := none
  deriving DecidableEq

/-- The ledger as a gateway. -/
def Ledger.gateway : Gateway Ledger where
  submit draft ledger :=
    match ledger.failure with
    | some error => (.error error, ledger)
    | none =>
      let accepted := ledger.accepted ++ [draft]
      (.ok ⟨BitVec.ofNat 128 accepted.length⟩, { ledger with accepted })

end Agenda.Service
