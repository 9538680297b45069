import Agenda.Calendar.TimeOfDay
import Agenda.Text.Blank
import Agenda.Text.Caseless
import Agenda.Text.Utf8
import Agenda.Text.WordChar

/-!
The clock time that a command mentions: `3pm`, `3 pm`, `3:30 p.m.`, `15:00`, `9`. Every run of
digits and colons offers one candidate, at its first digit; the first candidate that is a time of
day is the mention, and a mention cuts the text into what stands before, the time and what follows.
-/

namespace Agenda.Command
open Agenda.Calendar Agenda.Text

/-- The half of the day that a marker names. -/
inductive Meridiem where
  | am | pm
  deriving DecidableEq

/-- The hour on the 24-hour clock; hours that the marker does not fit stay as they are. -/
def hourOfDay (hour : Nat) : Option Meridiem → Nat
  | some .pm => if 1 ≤ hour ∧ hour ≤ 11 then hour + 12 else hour
  | some .am => if hour = 12 then 0 else hour
  | none => hour

/-- The minutes after an hour, a colon and two digits, and what follows; else nothing is taken. -/
def takeMinutes : List Char → List Char × List Char
  | ':' :: a :: b :: cs =>
    if a.isDigit && b.isDigit then ([':', a, b], cs) else ([], ':' :: a :: b :: cs)
  | cs => ([], cs)

/-- Nothing is lost where minutes are taken off. -/
theorem takeMinutes_append (cs : List Char) : (takeMinutes cs).1 ++ (takeMinutes cs).2 = cs := by
  unfold takeMinutes
  split
  · split <;> rfl
  · rfl

/--
The marker at the front of a text with its length. The dotted ones may be followed by anything, the
others only by the end of the word.
-/
def marker? (cs : List Char) : Option (Meridiem × Nat) :=
  if beginsWith ['a', '.', 'm', '.'] cs then some (.am, 4)
  else if beginsWith ['p', '.', 'm', '.'] cs then some (.pm, 4)
  else if beginsWith ['a', 'm'] cs && endsWord (cs.drop 2) then some (.am, 2)
  else if beginsWith ['p', 'm'] cs && endsWord (cs.drop 2) then some (.pm, 2)
  else none

/-- What may be a clock time, cut out of a text that begins with it. -/
structure Candidate where
  hour : Nat
  minute : Nat
  meridiem : Option Meridiem
  matched : List Char
  after : List Char

namespace Candidate

/--
The candidate at the front of a text: one or two digits, minutes if there are any, all blanks that
follow, and a marker if there is one.
-/
def ofText (cs : List Char) : Candidate :=
  let (hour, cs) := takeDigits 2 cs
  let (minutes, cs) := takeMinutes cs
  let blanks := cs.takeWhile isBlank
  let cs := cs.dropWhile isBlank
  let marker := marker? cs
  let length := (marker.map (·.2)).getD 0
  { hour := numeral hour
    minute := numeral (minutes.drop 1)
    meridiem := marker.map (·.1)
    matched := hour ++ minutes ++ blanks ++ cs.take length
    after := cs.drop length }

/-- The time of day, if the candidate is one. -/
def time? (c : Candidate) : Option TimeOfDay :=
  (TimeOfDay.ofNumbers (hourOfDay c.hour c.meridiem) c.minute).toOption

end Candidate

/-- A candidate is cut off the front of its text. -/
theorem Candidate.matched_append_after (cs : List Char) :
    (Candidate.ofText cs).matched ++ (Candidate.ofText cs).after = cs := by
  have h1 := takeDigits_append 2 cs
  have h2 := takeMinutes_append (takeDigits 2 cs).2
  simp only [Candidate.ofText, List.append_assoc, List.take_append_drop,
    List.takeWhile_append_dropWhile, h2, h1]

/-- A clock time in a text, with the three parts of the text. -/
structure TimeMention where
  time : TimeOfDay
  before : List Char
  matched : List Char
  after : List Char

namespace TimeMention

/-- The mention with one more character before it. -/
def push (c : Char) (m : TimeMention) : TimeMention := { m with before := c :: m.before }

/-- The mention at the front of a text that begins with a digit, if its candidate is one. -/
def atFront? (cs : List Char) : Option TimeMention :=
  (Candidate.ofText cs).time?.map fun time =>
    { time := time
      before := []
      matched := (Candidate.ofText cs).matched
      after := (Candidate.ofText cs).after }

/-- The first mention in a text; `skipping` inside a run whose candidate was refused. -/
def scan (skipping : Bool) : List Char → Option TimeMention
  | [] => none
  | c :: cs =>
    if c.isDigit && !skipping then
      match atFront? (c :: cs) with
      | some m => some m
      | none => (scan true cs).map (push c)
    else (scan (skipping && (c.isDigit || c == ':')) cs).map (push c)

/-- The first clock time in a text. -/
def find (text : List Char) : Option TimeMention := scan false text

/-- The three parts of a mention make up the text. -/
theorem parts_of_scan {skipping : Bool} {cs : List Char} {m : TimeMention}
    (h : scan skipping cs = some m) : m.before ++ m.matched ++ m.after = cs := by
  induction cs generalizing skipping m with
  | nil => simp [scan] at h
  | cons c cs ih =>
    unfold scan at h
    split at h
    · split at h
      · rename_i found hf
        obtain ⟨time, _, rfl⟩ := Option.map_eq_some_iff.1 hf
        cases h
        exact Candidate.matched_append_after (c :: cs)
      · obtain ⟨n, hn, rfl⟩ := Option.map_eq_some_iff.1 h
        simpa [push] using ih hn
    · obtain ⟨n, hn, rfl⟩ := Option.map_eq_some_iff.1 h
      simpa [push] using ih hn

/-- Where the mention stands, in bytes. -/
def span (m : TimeMention) : Nat × Nat :=
  (byteLength m.before, byteLength m.before + byteLength m.matched)

/-- The text without the mention. -/
def rest (m : TimeMention) : List Char := m.before ++ m.after

/-- When an entry starts if its command mentions no time. -/
def defaultStart : TimeOfDay := { hour := 9, minute := 0 }

/-- When an entry starts. -/
def start : Option TimeMention → TimeOfDay
  | some m => m.time
  | none => defaultStart

end TimeMention

end Agenda.Command
