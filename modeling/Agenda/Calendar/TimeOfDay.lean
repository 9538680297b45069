import Agenda.Text.Digits

/-!
Times of day on a 24-hour clock. A time is an hour and a minute, each inside its range; its text is
two digits, a colon and two digits, and reading takes exactly the texts that writing makes. Every
other text is told apart: wrong form first, then the hour, then the minute.
-/

namespace Agenda.Calendar
open Agenda.Text

/-- An hour and a minute, without date or time zone. -/
structure TimeOfDay where
  hour : Nat
  minute : Nat
  hour_lt : hour < 24 := by decide
  minute_lt : minute < 60 := by decide
  deriving DecidableEq

/-- Why numbers or a text are no time of day. -/
inductive TimeError where
  | hourOutOfRange (hour : Nat)
  | minuteOutOfRange (minute : Nat)
  | malformed (text : String)
  deriving DecidableEq

namespace TimeOfDay

/-- The time with these parts; an hour out of range is found before a minute. -/
def ofNumbers (hour minute : Nat) : Except TimeError TimeOfDay :=
  if hour_lt : hour < 24 then
    if minute_lt : minute < 60 then .ok { hour, minute, hour_lt, minute_lt }
    else .error (.minuteOutOfRange minute)
  else .error (.hourOutOfRange hour)

/-- The time one hour later; after 23 the hour starts again at 0 and no day is counted. -/
def plusOneHour (t : TimeOfDay) : TimeOfDay where
  hour := (t.hour + 1) % 24
  minute := t.minute
  hour_lt := Nat.mod_lt _ (by decide)
  minute_lt := t.minute_lt

/-- Minutes since midnight, by which times are ordered. -/
def minutes (t : TimeOfDay) : Nat := t.hour * 60 + t.minute

/-- The earlier time is the smaller one. -/
def order (s t : TimeOfDay) : Ordering := compare s.minutes t.minutes

/-- The characters of `HH:MM`. -/
def chars (t : TimeOfDay) : List Char := twoDigits t.hour ++ ':' :: twoDigits t.minute

/-- The text `HH:MM`. -/
def text (t : TimeOfDay) : String := String.ofList t.chars

/-- Reads `HH:MM`: five characters, of which the middle one is a colon and the others are digits. -/
def ofText (s : String) : Except TimeError TimeOfDay :=
  match s.toList with
  | [a, b, ':', c, d] =>
    if [a, b, c, d].all Char.isDigit then ofNumbers (numeral [a, b]) (numeral [c, d])
    else .error (.malformed s)
  | _ => .error (.malformed s)

theorem ofNumbers_hour_minute (t : TimeOfDay) : ofNumbers t.hour t.minute = .ok t := by
  simp [ofNumbers, t.hour_lt, t.minute_lt]

/-- A time that is written is read back. -/
theorem ofText_text (t : TimeOfDay) : ofText t.text = .ok t := by
  have hh := t.hour_lt
  have hm := t.minute_lt
  have h1 := numeral_twoDigits t.hour (by omega)
  have h2 := numeral_twoDigits t.minute (by omega)
  have h3 := all_isDigit_twoDigits t.hour (by omega)
  have h4 := all_isDigit_twoDigits t.minute (by omega)
  simp only [twoDigits, List.all_cons, List.all_nil, Bool.and_true, Bool.and_eq_true] at h1 h2 h3 h4
  simp [ofText, text, chars, twoDigits, h1, h2, h3, h4, ofNumbers_hour_minute]

end TimeOfDay

/-- The wording of a time error. -/
def TimeError.message : TimeError → String
  | .hourOutOfRange hour => s!"hour out of range: {hour} (expected 0..=23)"
  | .minuteOutOfRange minute => s!"minute out of range: {minute} (expected 0..=59)"
  | .malformed text => s!"clock time is malformed: `{text}` (expected HH:MM)"

end Agenda.Calendar
