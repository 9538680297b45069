import Agenda.Proofs.Calendar.DayCount
import Agenda.Proofs.Text.Spacing
import Agenda.Service.Commands

/-!
Every command is interpreted, whatever its text and whatever the present. `Guarded.interpret` does
what `interpret` does, but over byte offsets and unsigned numbers, and it stops with a `Crash` where
an offset lies outside of the text or inside a character, or where a difference would be negative.
CORRECT here is a pair: the guarded interpreter never stops and agrees with `interpret`, and what
comes out is nothing for a blank command and a valid draft for every other one.
-/

namespace Agenda.Command
open Agenda.Calendar Agenda.Text Agenda.Service

/-- What would stop an interpretation halfway. -/
inductive Crash where
  | offset
  | underflow
  deriving DecidableEq

namespace Guarded

/-- The two parts of a text at a byte offset. -/
def splitAtByte (text : List Char) (offset : Nat) : Except Crash (List Char × List Char) :=
  match splitAtByte? offset text with
  | some parts => .ok parts
  | none => .error .offset

/-- The part of a text between two byte offsets. -/
def slice (text : List Char) (first last : Nat) : Except Crash (List Char) := do
  let (before, _) ← splitAtByte text first
  let (upTo, _) ← splitAtByte text last
  if first ≤ last then .ok (upTo.drop before.length) else .error .offset

/-- The text without the part between two byte offsets. -/
def cut (text : List Char) (first last : Nat) : Except Crash (List Char) := do
  let (before, _) ← splitAtByte text first
  let (_, after) ← splitAtByte text last
  .ok (before ++ after)

/-- Days from one weekday to the next occurrence of another. -/
def daysUntil (current target : Weekday) : Except Crash Nat :=
  if current.index ≤ 7 + target.index then
    match (7 + target.index - current.index) % 7 with
    | 0 => .ok 7
    | days => .ok days
  else .error .underflow

/-- Days from the present date to the one that a cue stands for. -/
def shift (today : Date) : Cue → Except Crash Nat
  | .today => .ok 0
  | .tomorrow => .ok 1
  | .nextWeek => .ok 7
  | .weekday day => daysUntil today.weekday day

/-- What a command means; nothing if it is empty when it is trimmed. -/
def interpret (command : String) (now : Instant) : Except Crash (Option Interpretation) :=
  if trimmed command = "" then .ok none
  else do
    let text := command.toList
    let cue := Cue.find text
    let days ← shift now.date cue
    let mention := TimeMention.find text
    let matched ← mention.mapM fun m => slice text m.span.1 m.span.2
    let rest ← match mention with
      | some m => cut text m.span.1 m.span.2
      | none => .ok text
    .ok (some
      { draft := .ofCommand (Title.ofRest rest) (now.date.later days) (TimeMention.start mention)
        cue := cue
        matched := matched.map String.ofList })

end Guarded

/-! ### No step crashes -/

/-- The text at both ends of a mention can be cut there. -/
theorem splitAtByte_before {text : List Char} {m : TimeMention}
    (h : TimeMention.find text = some m) :
    Guarded.splitAtByte text m.span.1 = .ok (m.before, m.matched ++ m.after) := by
  have hparts := TimeMention.parts_of_scan h
  rw [Guarded.splitAtByte, TimeMention.span, ← hparts, List.append_assoc,
    splitAtByte?_byteLength]

theorem splitAtByte_after {text : List Char} {m : TimeMention}
    (h : TimeMention.find text = some m) :
    Guarded.splitAtByte text m.span.2 = .ok (m.before ++ m.matched, m.after) := by
  have hparts := TimeMention.parts_of_scan h
  rw [Guarded.splitAtByte, TimeMention.span, ← hparts]
  simp only [← byteLength_append, splitAtByte?_byteLength]

/-- The slice at the mention is what was matched. -/
theorem slice_span {text : List Char} {m : TimeMention} (h : TimeMention.find text = some m) :
    Guarded.slice text m.span.1 m.span.2 = .ok m.matched := by
  have hle : m.span.1 ≤ m.span.2 := Nat.le_add_right _ _
  simp only [Guarded.slice, splitAtByte_before h, splitAtByte_after h, bind, Except.bind,
    if_pos hle, List.drop_left]

/-- The text without the slice is the rest. -/
theorem cut_span {text : List Char} {m : TimeMention} (h : TimeMention.find text = some m) :
    Guarded.cut text m.span.1 m.span.2 = .ok m.rest := by
  simp only [Guarded.cut, splitAtByte_before h, splitAtByte_after h, bind, Except.bind]
  rfl

/-- The difference between two weekdays, a week added, is never negative. -/
theorem daysUntil_eq (current target : Weekday) :
    Guarded.daysUntil current target = .ok (current.daysUntil target) := by
  cases current <;> cases target <;> rfl

/-- The number of days that a cue asks for. -/
def Cue.shift (today : Date) : Cue → Nat
  | .today => 0
  | .tomorrow => 1
  | .nextWeek => 7
  | .weekday day => today.weekday.daysUntil day

theorem shift_eq (today : Date) (cue : Cue) : Guarded.shift today cue = .ok (cue.shift today) := by
  cases cue with
  | today => rfl
  | tomorrow => rfl
  | nextWeek => rfl
  | weekday day => exact daysUntil_eq today.weekday day

/-- The date of a cue lies that many days ahead. -/
theorem date_eq_later_shift (today : Date) (cue : Cue) :
    cue.date today = today.later (cue.shift today) := by
  cases cue <;> rfl

theorem trimmed_eq_empty_iff (command : String) :
    trimmed command = "" ↔ isBlankText command = true := by
  rw [isBlankText, ← trim_eq_nil_iff, trimmed, ← String.toList_inj]
  simp

/-- The guarded interpreter never stops halfway and means the same. -/
theorem guarded_interpret_eq (command : String) (now : Instant) :
    Guarded.interpret command now = .ok (interpret command now) := by
  unfold Guarded.interpret interpret
  by_cases hb : isBlankText command = true
  · rw [if_pos ((trimmed_eq_empty_iff command).2 hb), if_pos hb]
  · rw [if_neg (mt (trimmed_eq_empty_iff command).1 hb), if_neg hb]
    simp only [interpretText, shift_eq, date_eq_later_shift, bind, Except.bind]
    cases hm : TimeMention.find command.toList with
    | none => rfl
    | some m =>
      simp only [Option.mapM_some, slice_span hm, cut_span hm]
      rfl

/-! ### What comes out is valid -/

/-- No title is blank. -/
theorem isBlankText_ofRest (rest : List Char) : isBlankText (Title.ofRest rest) = false := by
  unfold Title.ofRest isBlankText
  rcases unwords_words_cases (Title.strip rest) with ⟨-, h⟩ | ⟨c, cs, h, hc⟩
  · rw [h]
    decide
  · rw [h]
    simp [allBlank, hc]

/-- A draft made from a command has nothing wrong with it. -/
theorem fault?_ofCommand {title : String} (h : isBlankText title = false) (date : Date)
    (start : TimeOfDay) : (Draft.ofCommand title date start).fault? = none := by
  simp [Draft.fault?, Draft.ofCommand, h]

/-- Only blank commands mean nothing. -/
theorem interpret_eq_none_iff (command : String) (now : Instant) :
    interpret command now = none ↔ ∀ c ∈ command.toList, isBlank c = true := by
  simp [interpret, isBlankText, allBlank]

/-- The draft of an interpretation in its parts. -/
theorem draft_of_interpret {command : String} {now : Instant} {i : Interpretation}
    (h : interpret command now = some i) :
    i.cue = Cue.find command.toList ∧
    ∃ rest, i.draft = .ofCommand (Title.ofRest rest) (i.cue.date now.date)
      (TimeMention.start (TimeMention.find command.toList)) := by
  unfold interpret at h
  split at h
  · cases h
  · cases h
    exact ⟨rfl, _, rfl⟩

/-- The draft of an interpretation has nothing wrong with it. -/
theorem fault?_of_interpret {command : String} {now : Instant} {i : Interpretation}
    (h : interpret command now = some i) : i.draft.fault? = none := by
  obtain ⟨-, rest, hd⟩ := draft_of_interpret h
  rw [hd]
  exact fault?_ofCommand (isBlankText_ofRest rest) _ _

/-- A command with a valid draft ends at the gateway. -/
theorem submit_ne_invalidDraft {σ : Type} (g : Gateway σ) {draft : Draft}
    (h : draft.fault? = none) (state : σ) (fault : Draft.Fault) :
    (submit g draft state).1 ≠ .error (.invalidDraft fault) := by
  unfold submit
  rw [h]
  simp only
  split <;> simp

/--
CORRECT: a command is interpreted without a crash; it means nothing iff it is blank; else its draft
is valid, marked, inside the day, one hour long, and as many days ahead as its cue says or, past the
end of the calendar, on the present date. So no gateway makes a command end as an invalid draft.
-/
theorem interpret_total (command : String) (now : Instant) :
    Guarded.interpret command now = .ok (interpret command now) ∧
    (interpret command now = none ↔ ∀ c ∈ command.toList, isBlank c = true) ∧
    (∀ i, interpret command now = some i →
      i.draft.fault? = none ∧ i.draft.isFromCommand = true ∧
      i.draft.start.hour ≤ 23 ∧ i.draft.start.minute ≤ 59 ∧
      i.draft.finish = i.draft.start.plusOneHour ∧
      ((now.date.dayNumber + i.cue.shift now.date ≤ Date.last.dayNumber ∧
          i.draft.date.dayNumber = now.date.dayNumber + i.cue.shift now.date) ∨
        (Date.last.dayNumber < now.date.dayNumber + i.cue.shift now.date ∧
          i.draft.date = now.date))) ∧
    ∀ (σ : Type) (g : Gateway σ) (state : σ) (fault : Draft.Fault),
      (handleCommand g command now state).result ≠ .error (.invalidDraft fault) := by
  refine ⟨guarded_interpret_eq command now, interpret_eq_none_iff command now, ?_, ?_⟩
  · intro i hi
    obtain ⟨-, rest, hd⟩ := draft_of_interpret hi
    have hvalid := fault?_ofCommand (isBlankText_ofRest rest) (i.cue.date now.date)
      (TimeMention.start (TimeMention.find command.toList))
    refine ⟨by rw [hd]; exact hvalid, by rw [hd]; rfl, Nat.le_of_lt_succ i.draft.start.hour_lt,
      Nat.le_of_lt_succ i.draft.start.minute_lt, by rw [hd]; rfl, ?_⟩
    have hdate : i.draft.date = now.date.later (i.cue.shift now.date) := by
      rw [hd, ← date_eq_later_shift]
      rfl
    rw [hdate]
    exact Date.later_cases (i.cue.shift now.date) now.date
  · intro σ g state fault
    unfold handleCommand
    cases hi : interpret command now with
    | none => simp
    | some i =>
      obtain ⟨-, rest, hd⟩ := draft_of_interpret hi
      have hvalid : i.draft.fault? = none := by
        rw [hd]
        exact fault?_ofCommand (isBlankText_ofRest rest) _ _
      exact submit_ne_invalidDraft g hvalid state fault

end Agenda.Command
