import Agenda.Calendar.Date
import Agenda.Text.Blank
import Agenda.Text.Digits

/-!
Dates as text: year, month and day with hyphens between them. A year from 0 to 9999 has four digits,
any other one a sign and at least four digits. Reading is more lenient than writing: numbers may be
shorter and may have blanks in front.
-/

namespace Agenda.Calendar
open Agenda.Text

/-- Why a text is no date or no instant. -/
inductive TextError where
  | ended
  | unexpected
  | outOfRange
  | trailing
  deriving DecidableEq

/-- The wording of a text error. -/
def TextError.message : TextError → String
  | .ended => "premature end of input"
  | .unexpected => "input contains invalid characters"
  | .outOfRange => "input is out of range"
  | .trailing => "trailing input"

/-! ### Writing -/

/-- The characters of a year. -/
def yearChars (year : Int) : List Char :=
  if 0 ≤ year ∧ year ≤ 9999 then padded 4 year.toNat
  else (if year < 0 then '-' else '+') :: padded 4 year.natAbs

namespace Date

/-- The characters of `YYYY-MM-DD`. -/
def chars (d : Date) : List Char :=
  yearChars d.year ++ '-' :: twoDigits d.month ++ '-' :: twoDigits d.day

/-- The text `YYYY-MM-DD`. -/
def text (d : Date) : String := String.ofList d.chars

end Date

/-! ### Reading -/

/-- Reads a number of at least one and at most `width` digits. -/
def readNumber (width : Nat) (cs : List Char) : Except TextError (Nat × List Char) :=
  match cs with
  | [] => .error .ended
  | c :: _ =>
    if c.isDigit then
      let (ds, rest) := takeDigits width cs
      .ok (numeral ds, rest)
    else .error .unexpected

/-- Reads a number of one or two digits that lies between two bounds; blanks may stand before it. -/
def readField (low high : Nat) (cs : List Char) : Except TextError (Nat × List Char) := do
  let (n, rest) ← readNumber 2 (skipBlanks cs)
  if low ≤ n ∧ n ≤ high then .ok (n, rest) else .error .outOfRange

/-- Reads a year: a sign and any number of digits, or up to four digits; it must fit 32 bits. -/
def readYear (cs : List Char) : Except TextError (Int × List Char) := do
  let (year, rest) ← match skipBlanks cs with
    | '-' :: cs => (readNumber cs.length cs).map fun (n, rest) => (-(n : Int), rest)
    | '+' :: cs => (readNumber cs.length cs).map fun (n, rest) => ((n : Int), rest)
    | cs => (readNumber 4 cs).map fun (n, rest) => ((n : Int), rest)
  if -2147483648 ≤ year ∧ year ≤ 2147483647 then .ok (year, rest) else .error .outOfRange

/-- Reads one given character. -/
def readMark (mark : Char) : List Char → Except TextError (List Char)
  | [] => .error .ended
  | c :: cs => if c = mark then .ok cs else .error .unexpected

/-- Reads year, month and day; `gap` is what may be left out before a hyphen. -/
def readDay (gap : List Char → List Char) (cs : List Char) :
    Except TextError ((Int × Nat × Nat) × List Char) := do
  let (year, cs) ← readYear cs
  let cs ← readMark '-' (gap cs)
  let (month, cs) ← readField 1 12 cs
  let cs ← readMark '-' (gap cs)
  let (day, cs) ← readField 1 31 cs
  .ok ((year, month, day), cs)

namespace Date

/-- The date with these parts, or that it is out of range. -/
def ofParts (parts : Int × Nat × Nat) : Except TextError Date :=
  match ofNumbers? parts.1 parts.2.1 parts.2.2 with
  | some d => .ok d
  | none => .error .outOfRange

/-- Reads a date that makes up a whole text; blanks may stand before a hyphen and at the end. -/
def ofChars (cs : List Char) : Except TextError Date := do
  let (parts, rest) ← readDay skipBlanks cs
  if (skipBlanks rest).isEmpty then ofParts parts else .error .trailing

/-- Reads a date that makes up a whole text. -/
def ofText (s : String) : Except TextError Date := ofChars s.toList

end Date

end Agenda.Calendar
