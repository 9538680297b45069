import Agenda.Json.Number

/-!
JSON values. The members of an object are kept in the order of the text, equal keys included;
`sortMembers` brings them into key order and keeps the last of those with equal keys.
-/

namespace Agenda

/-- A JSON value without parts. -/
inductive Json.Scalar where
  | null
  | boolean (value : Bool)
  | number (value : Json.Number)
  | string (value : String)
  deriving DecidableEq

/-- A JSON value. -/
inductive Json where
  | scalar (value : Json.Scalar)
  | array (items : List Json)
  | object (members : List (String × Json))

namespace Json

/-- A string as a value. -/
@[match_pattern]
abbrev string (value : String) : Json := .scalar (.string value)

/-- What a value is at first sight: a whole scalar, or the opening of an array or an object. -/
inductive Head where
  | scalar (value : Scalar)
  | array
  | object
  deriving DecidableEq

/-- The head of a value. -/
def head : Json → Head
  | scalar value => .scalar value
  | array _ => .array
  | object _ => .object

/-- Puts a member into a list sorted by key, in place of one with an equal key. -/
def insertMember {α : Type} (key : String) (value : α) : List (String × α) → List (String × α)
  | [] => [(key, value)]
  | (k, v) :: rest =>
    if key < k then (key, value) :: (k, v) :: rest
    else if key = k then (key, value) :: rest
    else (k, v) :: insertMember key value rest

/-- Members in key order; of several with equal keys the last one counts. -/
def sortMembers {α : Type} (members : List (String × α)) : List (String × α) :=
  members.foldl (fun sorted member => insertMember member.1 member.2 sorted) []

/-- The value of an object's member; of several with an equal key the last one. -/
def get? (key : String) : Json → Option Json
  | object members => (members.reverse.find? fun member => member.1 == key).map (·.2)
  | _ => none

end Json

end Agenda
