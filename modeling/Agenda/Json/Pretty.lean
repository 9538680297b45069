import Agenda.Json.Value

/-!
JSON values written over several lines, two blanks deeper on each level. Inside a string the quote,
the backslash and the control characters are escaped, by one letter where there is one, and all
other characters stand for themselves.
-/

namespace Agenda.Json
open Agenda.Text

/-- The characters that stand for one character inside a string. -/
def escaped (c : Char) : List Char :=
  if c = '"' ∨ c = '\\' then ['\\', c]
  else if c = '\n' then ['\\', 'n']
  else if c = '\r' then ['\\', 'r']
  else if c = '\t' then ['\\', 't']
  else if c.toNat = 8 then ['\\', 'b']
  else if c.toNat = 12 then ['\\', 'f']
  else if c.toNat < 0x20 then '\\' :: 'u' :: paddedHex 4 c.toNat
  else [c]

/-- A string between quotes. -/
def quoted (s : String) : List Char := '"' :: s.toList.flatMap escaped ++ ['"']

/-- A new line, indented to a level. -/
def newline (level : Nat) : List Char := '\n' :: List.replicate (2 * level) ' '

/-- The characters of a value without parts. -/
def Scalar.chars : Scalar → List Char
  | .null => "null".toList
  | .boolean true => "true".toList
  | .boolean false => "false".toList
  | .number value => value.chars
  | .string value => quoted value

mutual

/-- A value that begins on a line of some level. -/
def prettyChars (level : Nat) : Json → List Char
  | .scalar value => value.chars
  | .array [] => ['[', ']']
  | .array (item :: items) =>
    '[' :: newline (level + 1) ++ prettyChars (level + 1) item ++ prettyItems (level + 1) items ++
      newline level ++ [']']
  | .object [] => ['{', '}']
  | .object ((key, value) :: members) =>
    '{' :: newline (level + 1) ++ quoted key ++ ':' :: ' ' :: prettyChars (level + 1) value ++
      prettyMembers (level + 1) members ++ newline level ++ ['}']

/-- The items after the first one, each on a line of its own. -/
def prettyItems (level : Nat) : List Json → List Char
  | [] => []
  | item :: items => ',' :: newline level ++ prettyChars level item ++ prettyItems level items

/-- The members after the first one, each on a line of its own. -/
def prettyMembers (level : Nat) : List (String × Json) → List Char
  | [] => []
  | (key, value) :: members =>
    ',' :: newline level ++ quoted key ++ ':' :: ' ' :: prettyChars level value ++
      prettyMembers level members

end

/-- The text of a value over several lines. -/
def pretty (value : Json) : String := String.ofList (prettyChars 0 value)

end Agenda.Json
