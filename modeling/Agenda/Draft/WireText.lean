import Agenda.Draft.Wire
import Agenda.Json.Reader

/-!
Drafts in JSON text. The text is read once, from front to back, and the first thing that is wrong
with it counts, whether it is the text as JSON or a member of the draft. A member of a draft may
occur only once; the values of other members are passed over.
-/

namespace Agenda.Draft
open Agenda.Json

/-- Why a text is no draft. -/
inductive ReadError where
  | text (fault : Json.Fault)
  | content (error : DecodeError)
  deriving DecidableEq

/-- A result of reading JSON as a result of reading a draft. -/
def fromText {α : Type} (r : Except Json.Fault α) : Except ReadError α := r.mapError .text

/-- A result of decoding as a result of reading a draft. -/
def fromContent {α : Type} (r : Except DecodeError α) : Except ReadError α := r.mapError .content

/-- Reads one member of an object, with its key. -/
def scanMember (s : Slots) (cs : List Char) : Except ReadError (Slots × List Char) := do
  let (key, cs) ← fromText (scanKey cs)
  match Field.ofKey? key with
  | some field =>
    if s.has field then .error (.content (.repeated field))
    let cs ← fromText (scanColon cs)
    let (found, cs) ← fromText (scanHead cs)
    let s ← fromContent (s.put found field)
    .ok (s, cs)
  | none =>
    let cs ← fromText (scanColon cs)
    let cs ← fromText (skipValue cs)
    .ok (s, cs)

/-- Reads the next item of an array; `left` are the members still to come. -/
def scanItem : Slots × List Field → List Char → Except ReadError ((Slots × List Field) × List Char)
  | (s, field :: left), cs => do
    let (found, cs) ← fromText (scanHead cs)
    let s ← fromContent (s.put found field)
    .ok ((s, left), cs)
  | (_, []), _ => .error (.text .malformed)

/-- Reads a draft from the front of a text. -/
def scan (cs : List Char) : Except ReadError (Draft × List Char) := do
  let (found, cs) ← fromText (scanHead cs)
  match found with
  | .object =>
    let (slots, cs) ← foldSequence .text '}' scanMember {} cs
    let draft ← fromContent slots.toDraft
    .ok (draft, cs)
  | .array =>
    let ((slots, left), cs) ← foldSequence .text ']' scanItem ({}, Field.all) cs
    if !left.isEmpty then .error (.content (.tooShort (6 - left.length)))
    let draft ← fromContent slots.toDraft
    .ok (draft, cs)
  | found => .error (.content (.wrongKind found .draft))

/-- Reads a draft from a text that holds nothing else. -/
def ofText (s : String) : Except ReadError Draft := do
  let (draft, rest) ← scan s.toList
  if (skipSpace rest).isEmpty then .ok draft else .error (.text .malformed)

end Agenda.Draft
