import Agenda.Json.Scan

/-!
Reading a whole JSON text as a value, and passing over a value that nobody asks for. A value may be
nested in at most 127 arrays and objects; a value passed over may be nested in any number of them.
-/

namespace Agenda.Json

/-- Reads a part and puts it in front of those before it. -/
def collect {α : Type} (read : List Char → Except Fault (α × List Char)) (parts : List α)
    (cs : List Char) : Except Fault (List α × List Char) := do
  let (part, cs) ← read cs
  .ok (part :: parts, cs)

/-- Reads a member of an object, and its value with `inner`. -/
def readMember (inner : List Char → Except Fault (Json × List Char)) (cs : List Char) :
    Except Fault ((String × Json) × List Char) := do
  let (key, cs) ← scanKey cs
  let cs ← scanColon cs
  let (value, cs) ← inner cs
  .ok ((key, value), cs)

/-- Reads a value from the front of a text, and the values inside it with `inner`. -/
def readWith (inner : List Char → Except Fault (Json × List Char)) (cs : List Char) :
    Except Fault (Json × List Char) := do
  let (head, cs) ← scanHead cs
  match head with
  | .scalar value => .ok (.scalar value, cs)
  | .array =>
    let (items, cs) ← foldSequence id ']' (collect inner) [] cs
    .ok (.array items.reverse, cs)
  | .object =>
    let (members, cs) ← foldSequence id '}' (collect (readMember inner)) [] cs
    .ok (.object members.reverse, cs)

/-- Reads a scalar; an array or an object is nested too deeply. -/
def readScalar (cs : List Char) : Except Fault (Json × List Char) := do
  let (head, cs) ← scanHead cs
  match head with
  | .scalar value => .ok (.scalar value, cs)
  | .array | .object => .error .malformed

/-- Reads a value nested to at most a number of levels. -/
def readNested : Nat → List Char → Except Fault (Json × List Char)
  | 0 => readScalar
  | levels + 1 => readWith (readNested levels)

/-- How deeply arrays and objects may be nested. -/
def maxLevels : Nat := 127

/-- Reads a text that consists of one value and white space. -/
def ofChars (cs : List Char) : Except Fault Json := do
  let (value, rest) ← readNested maxLevels cs
  if (skipSpace rest).isEmpty then .ok value else .error .malformed

/-- Reads a text that consists of one value and white space. -/
def ofText (s : String) : Except Fault Json := ofChars s.toList

/-- Passes over a key in front of its value. -/
def skipKey (cs : List Char) : Except Fault (List Char) :=
  match skipSpace cs with
  | [] => .error .truncated
  | c :: cs => if c = '"' then skipString cs else .error .malformed

/-- Passes over a member of an object, and over its value with `inner`. -/
def skipMember (inner : List Char → Except Fault (List Char)) (cs : List Char) :
    Except Fault (List Char) := do
  let cs ← skipKey cs
  let cs ← scanColon cs
  inner cs

/-- Passes over a sequence up to its closing bracket, and over its parts with `skip`. -/
def skipSequence (close : Char) (skip : List Char → Except Fault (List Char)) (cs : List Char) :
    Except Fault (List Char) :=
  (foldSequence id close (fun () cs => (skip cs).map fun cs => ((), cs)) () cs).map (·.2)

/-- Passes over a value, and over the values inside it with `inner`. -/
def skipWith (inner : List Char → Except Fault (List Char)) (cs : List Char) :
    Except Fault (List Char) :=
  match skipSpace cs with
  | [] => .error .truncated
  | '[' :: cs => skipSequence ']' inner cs
  | '{' :: cs => skipSequence '}' (skipMember inner) cs
  | '"' :: cs => skipString cs
  | 'n' :: cs => scanWord ['u', 'l', 'l'] cs
  | 't' :: cs => scanWord ['r', 'u', 'e'] cs
  | 'f' :: cs => scanWord ['a', 'l', 's', 'e'] cs
  | c :: cs => if c = '-' ∨ c.isDigit then skipNumber (c :: cs) else .error .malformed

/-- Passes over a value nested to at most a number of levels. -/
def skipNested : Nat → List Char → Except Fault (List Char)
  | 0 => fun _ => .error .truncated
  | levels + 1 => skipWith (skipNested levels)

/-- Passes over a value; it cannot be nested more deeply than its text is long. -/
def skipValue (cs : List Char) : Except Fault (List Char) := skipNested (cs.length + 1) cs

end Agenda.Json
