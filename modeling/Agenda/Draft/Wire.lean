import Agenda.Calendar.DateText
import Agenda.Draft
import Agenda.Json.Value
import Agenda.Text.Quoted

/-!
Drafts as JSON values. A draft is written as an object of six strings. It is read from an object
that has these members, in any order and among others, or from an array of the six in their order;
then it has to be valid as well. The first error counts, and members are looked at in key order.
-/

namespace Agenda.Draft
open Agenda.Calendar

/-- The members of a draft. -/
inductive Field where
  | title | date | start | finish | color | note
  deriving DecidableEq

namespace Field

/-- The members in the order in which they are written. -/
def all : List Field := [title, date, start, finish, color, note]

/-- The key of a member. -/
def key : Field → String
  | title => "title"
  | date => "date"
  | start => "startTime"
  | finish => "endTime"
  | color => "color"
  | note => "description"

/-- The member with a key. -/
def ofKey? (key : String) : Option Field := all.find? fun field => field.key == key

end Field

/-! ### Errors -/

/-- What is asked for where a value is of the wrong kind. -/
inductive Wanted where
  | text | date | draft
  deriving DecidableEq

/-- Why a value is no draft. -/
inductive DecodeError where
  | wrongKind (found : Json.Head) (wanted : Wanted)
  | missing (field : Field)
  | repeated (field : Field)
  | tooShort (length : Nat)
  | tooLong (length : Nat)
  | badDate (error : TextError)
  | badTime (error : TimeError)
  | invalid (fault : Fault)
  deriving DecidableEq

/-- What a message calls a thing that is asked for. -/
def Wanted.describe : Wanted → String
  | .text => "a string"
  | .date => "a formatted date string"
  | .draft => "struct RawParsedDraft"

/-- What a message calls a value. -/
def describeHead : Json.Head → String
  | .scalar .null => "null"
  | .scalar (.boolean value) => s!"boolean `{value}`"
  | .scalar (.number (.integer value)) => s!"integer `{value}`"
  | .scalar (.number (.float value)) => s!"floating point `{String.ofList value.chars}`"
  | .scalar (.string value) => s!"string {Text.quote value}"
  | .array => "sequence"
  | .object => "map"

/-- The wording of a decoding error. -/
def DecodeError.message : DecodeError → String
  | .wrongKind found wanted => s!"invalid type: {describeHead found}, expected {wanted.describe}"
  | .missing field => s!"missing field `{field.key}`"
  | .repeated field => s!"duplicate field `{field.key}`"
  | .tooShort length =>
    s!"invalid length {length}, expected {Wanted.draft.describe} with 6 elements"
  | .tooLong length => s!"invalid length {length}, expected fewer elements in array"
  | .badDate error => error.message
  | .badTime error => error.message
  | .invalid fault => fault.message

/-! ### Writing -/

/-- A draft as an object of six strings. -/
def toJson (d : Draft) : Json :=
  .object [
    (Field.title.key, .string d.title),
    (Field.date.key, .string d.date.text),
    (Field.start.key, .string d.start.text),
    (Field.finish.key, .string d.finish.text),
    (Field.color.key, .string d.color),
    (Field.note.key, .string d.note)]

/-! ### Reading -/

/-- The string that a value is. -/
def readText (wanted : Wanted) : Json.Head → Except DecodeError String
  | .scalar (.string value) => .ok value
  | found => .error (.wrongKind found wanted)

/-- The date that a value spells. -/
def readDate (found : Json.Head) : Except DecodeError Date := do
  (Date.ofText (← readText .date found)).mapError .badDate

/-- The time of day that a value spells. -/
def readTime (found : Json.Head) : Except DecodeError TimeOfDay := do
  (TimeOfDay.ofText (← readText .text found)).mapError .badTime

/-- The members of a draft that have been read so far. -/
structure Slots where
  title : Option String := none
  date : Option Date := none
  start : Option TimeOfDay := none
  finish : Option TimeOfDay := none
  color : Option String := none
  note : Option String := none

namespace Slots

/-- Whether a member has been read. -/
def has (s : Slots) : Field → Bool
  | .title => s.title.isSome
  | .date => s.date.isSome
  | .start => s.start.isSome
  | .finish => s.finish.isSome
  | .color => s.color.isSome
  | .note => s.note.isSome

/-- Reads a member from its value. -/
def put (s : Slots) (found : Json.Head) : Field → Except DecodeError Slots
  | .title => (readText .text found).map fun value => { s with title := some value }
  | .date => (readDate found).map fun value => { s with date := some value }
  | .start => (readTime found).map fun value => { s with start := some value }
  | .finish => (readTime found).map fun value => { s with finish := some value }
  | .color => (readText .text found).map fun value => { s with color := some value }
  | .note => (readText .text found).map fun value => { s with note := some value }

/-- What has been read of a member, which may not be missing. -/
def need {α : Type} (field : Field) : Option α → Except DecodeError α
  | some value => .ok value
  | none => .error (.missing field)

/-- The draft that has been read, if no member is missing and it is valid. -/
def toDraft (s : Slots) : Except DecodeError Draft := do
  let title ← need .title s.title
  let date ← need .date s.date
  let start ← need .start s.start
  let finish ← need .finish s.finish
  let color ← need .color s.color
  let note ← need .note s.note
  let draft : Draft := { title, date, start, finish, color, note }
  match draft.fault? with
  | none => .ok draft
  | some fault => .error (.invalid fault)

/-- Reads a member if it is one of a draft, and leaves all others. -/
def putMember (s : Slots) (member : String × Json) : Except DecodeError Slots :=
  match Field.ofKey? member.1 with
  | some field => s.put member.2.head field
  | none => .ok s

/-- Reads members in the order of the fields from as many values as there are. -/
def putItems (s : Slots) : List Field → List Json → Except DecodeError Slots
  | field :: fields, item :: items => do (← s.put item.head field).putItems fields items
  | _, _ => .ok s

end Slots

/-- Reads a draft from a value. -/
def ofJson : Json → Except DecodeError Draft
  | .object members => do
    let slots ← (Json.sortMembers members).foldlM Slots.putMember {}
    slots.toDraft
  | .array items => do
    let slots ← Slots.putItems {} Field.all items
    if items.length < 6 then .error (.tooShort items.length)
    else if 6 < items.length then .error (.tooLong items.length)
    else slots.toDraft
  | value => .error (.wrongKind value.head .draft)

end Agenda.Draft
