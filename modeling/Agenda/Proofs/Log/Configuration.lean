import Agenda.Activity
import Agenda.Proofs.Log.Setup
import Agenda.Proofs.Log.Spellings
import Mathlib.Order.Nat

/-!
The log of a process over a whole run. A run is a list of moments: a step, with the storage and the
clock as they are just then, so that a directory that could not be made may be made later. A moment
does one of four things to the log, and from these follows what a run keeps: the log is off until
the first configuration that is accepted, and on with its setup ever after. CORRECT adds the exact
answer to every configuration on the way.

      moment           log off                     log on
      configuration    refused, or the start       refused, or accepted without a change
      other step       nothing                     its events, if the level keeps them
-/

namespace Agenda.Activity
open Agenda.Calendar Agenda.Log

/-- A step of a process, with the storage and the clock that it meets. -/
structure Moment where
  storage : Storage
  clock : Instant
  step : Step

/-- The events that a moment causes, besides the one that tells of the start of the log. -/
def Moment.events (m : Moment) : List Event := m.step.events m.clock

/-- The log after a moment. -/
def Moment.logAfter (s : Session) (m : Moment) : Session := m.step.logAfter m.storage m.clock s

/-- The log after a run that begins without one. -/
def logOf (run : List Moment) : Session := run.foldl Moment.logAfter {}

/-- The answer to a moment, if it is a configuration. -/
def Moment.answer? (s : Session) (m : Moment) : Option (Except SetupError Unit) :=
  match m.step with
  | .configure level directory => some (s.configure m.storage level directory).1
  | _ => none

/-- The answer at a place of a run. -/
def answerAt? (run : List Moment) (place : Nat) : Option (Except SetupError Unit) :=
  run[place]?.bind (Moment.answer? (logOf (run.take place)))

/-- A configuration is accepted at a place of a run, and none before. -/
structure StartsAt (run : List Moment) (place : Nat) : Prop where
  accepted : answerAt? run place = some (.ok ())
  first : ∀ earlier < place, answerAt? run earlier ≠ some (.ok ())

/-- The answer to a configuration as the command bar gives it. -/
def answerText : Except SetupError Unit → String
  | .ok () => ""
  | .error e => e.message

/-- How a configuration is to be answered by a log, and what the log is afterwards. -/
structure Answered (storage : Storage) (level directory : String) (before : Session)
    (answer : Except SetupError Unit) (after : Session) : Prop where
  accepted_off : before.setup = none →
    (answer = .ok () ↔ ∃ asked, Asks level directory asked ∧ storage asked.directory = none)
  refused_off : before.setup = none → ∀ e,
    answer = .error e ↔ Unstarted storage level directory e
  accepted_on : ∀ active, before.setup = some active →
    (answer = .ok () ↔ ∃ asked, Asks level directory asked ∧
      asked.directory.parts = active.directory.parts ∧ asked.level = active.level)
  refused_on : ∀ active, before.setup = some active → ∀ e,
    answer = .error e ↔ Refused active level directory e
  unchanged : before.setup ≠ none ∨ answer ≠ .ok () → after = before
  fromBar : CommandBar.configureLog storage level directory before = (answerText answer, after) ∧
    (answerText answer = "" ↔ answer = .ok ())

/-! ### One moment -/

/-- What a moment can do to the log. -/
theorem Moment.logAfter_cases (s : Session) (m : Moment) :
    (m.answer? s = none ∧ m.logAfter s = s.recordAll m.events) ∨
    (∃ e, m.answer? s = some (.error e) ∧ m.logAfter s = s) ∨
    (∃ active, s.setup = some active ∧ m.answer? s = some (.ok ()) ∧ m.logAfter s = s) ∨
    (∃ level directory asked, m.step = .configure level directory ∧ Asks level directory asked ∧
      s.setup = none ∧ m.answer? s = some (.ok ()) ∧ m.logAfter s = s.started asked) := by
  obtain ⟨storage, clock, step⟩ := m
  cases step with
  | configure level directory =>
    have hanswer : Moment.answer? s ⟨storage, clock, .configure level directory⟩ =
      some (s.configure storage level directory).1 := rfl
    have hafter : Moment.logAfter s ⟨storage, clock, .configure level directory⟩ =
      (s.configure storage level directory).2 := rfl
    rw [hanswer, hafter]
    cases hresult : (s.configure storage level directory).1 with
    | error e =>
      refine Or.inr (Or.inl ⟨e, rfl, Session.configure_unchanged (Or.inr ?_)⟩)
      simp [hresult]
    | ok u =>
      cases hs : s.setup with
      | some active =>
        refine Or.inr (Or.inr (Or.inl ⟨active, rfl, rfl, ?_⟩))
        exact Session.configure_unchanged (Or.inl (by simp [hs]))
      | none =>
        obtain ⟨asked, hasked, hstorage⟩ := (Session.configure_off_eq_ok_iff hs).1 hresult
        refine Or.inr (Or.inr (Or.inr ⟨level, directory, asked, rfl, hasked, rfl, rfl, ?_⟩))
        rw [Session.configure_of_off hs hasked, hstorage]
  | interpret _ _ | typed _ _ | spoken _ _ | event _ | crash _ _ => exact Or.inl ⟨rfl, rfl⟩

/-- A log that is on stays on with its setup. -/
theorem Moment.setup_of_on {s : Session} {active : Setup} (h : s.setup = some active)
    (m : Moment) : (m.logAfter s).setup = some active := by
  rcases m.logAfter_cases s with ⟨-, hafter⟩ | ⟨e, -, hafter⟩ | ⟨other, -, -, hafter⟩ |
    ⟨level, directory, asked, -, -, hoff, -, -⟩
  · rw [hafter, Session.setup_recordAll, h]
  · rw [hafter, h]
  · rw [hafter, h]
  · rw [h] at hoff
    cases hoff

/-- A log that is off stays off unless a configuration is accepted. -/
theorem Moment.setup_of_off {s : Session} (h : s.setup = none) (m : Moment) :
    (m.logAfter s).setup = none ↔ m.answer? s ≠ some (.ok ()) := by
  rcases m.logAfter_cases s with ⟨hanswer, hafter⟩ | ⟨e, hanswer, hafter⟩ | ⟨other, hon, -, -⟩ |
    ⟨level, directory, asked, -, -, -, hanswer, hafter⟩
  · simp [hanswer, hafter, Session.setup_recordAll, h]
  · simp [hanswer, hafter, h]
  · rw [h] at hon
    cases hon
  · simp [hanswer, hafter, Session.started_eq]

/-! ### A whole run -/

theorem logOf_take_succ {run : List Moment} {place : Nat} {m : Moment}
    (h : run[place]? = some m) :
    logOf (run.take (place + 1)) = m.logAfter (logOf (run.take place)) := by
  rw [List.take_add_one, h, Option.toList_some, logOf, List.foldl_append]
  rfl

/-- Past its end a run has no more places. -/
theorem logOf_take_of_le {run : List Moment} {n : Nat} (h : run.length ≤ n) :
    logOf (run.take n) = logOf run := by
  rw [List.take_of_length_le h]

/-- The run lemma for a log that is on. -/
theorem setup_take_of_le {run : List Moment} {n k : Nat} {active : Setup}
    (h : (logOf (run.take n)).setup = some active) (hle : n ≤ k) :
    (logOf (run.take k)).setup = some active := by
  induction k, hle using Nat.le_induction with
  | base => exact h
  | succ k _ ih =>
    cases hm : run[k]? with
    | some m =>
      rw [logOf_take_succ hm]
      exact m.setup_of_on ih
    | none =>
      have hlen := List.getElem?_eq_none_iff.1 hm
      rw [logOf_take_of_le hlen] at ih
      rw [logOf_take_of_le (Nat.le_succ_of_le hlen), ih]

/-- The run lemma for a log that is off. -/
theorem setup_take_eq_none_iff (run : List Moment) (n : Nat) :
    (logOf (run.take n)).setup = none ↔
      ∀ place < n, answerAt? run place ≠ some (.ok ()) := by
  induction n with
  | zero => simp [logOf]
  | succ n ih =>
    rw [Nat.forall_lt_succ_right, ← ih]
    cases hs : (logOf (run.take n)).setup with
    | some active => simp [setup_take_of_le hs (Nat.le_succ n)]
    | none =>
      unfold answerAt?
      cases hm : run[n]? with
      | some m =>
        rw [logOf_take_succ hm, m.setup_of_off hs]
        simp
      | none =>
        have hlen := List.getElem?_eq_none_iff.1 hm
        rw [logOf_take_of_le hlen] at hs
        rw [logOf_take_of_le (Nat.le_succ_of_le hlen)]
        simp [hs]

/-- Where the log starts it gets the setup that is asked for, and nothing is recorded before. -/
theorem StartsAt.started {run : List Moment} {place : Nat} (h : StartsAt run place) :
    ∃ m level directory asked, run[place]? = some m ∧ m.step = .configure level directory ∧
      Asks level directory asked ∧
      logOf (run.take (place + 1)) = (logOf (run.take place)).started asked := by
  have hoff := (setup_take_eq_none_iff run place).2 h.first
  obtain ⟨m, hm, hanswer⟩ := Option.bind_eq_some_iff.1 h.accepted
  rcases m.logAfter_cases (logOf (run.take place)) with ⟨hno, -⟩ | ⟨e, hno, -⟩ |
    ⟨active, hon, -, -⟩ | ⟨level, directory, asked, hstep, hasked, -, -, hafter⟩
  · rw [hanswer] at hno
    cases hno
  · rw [hanswer] at hno
    cases hno
  · rw [hoff] at hon
    cases hon
  · exact ⟨m, level, directory, asked, hm, hstep, hasked, by rw [logOf_take_succ hm, hafter]⟩

/-! ### Every configuration of a run -/

theorem append_ne_empty {a : String} (h : a ≠ "") (b : String) : a ++ b ≠ "" := fun hab =>
  h (String.append_eq_empty_iff.1 hab).1

/-- Every refusal has a wording. -/
theorem message_ne_empty (e : SetupError) : e.message ≠ "" := by
  unfold SetupError.message
  cases e with
  | emptyDirectory => decide
  | notStarted directory fault =>
    cases fault with
    | directory reason =>
      exact append_ne_empty (append_ne_empty (append_ne_empty (by decide) _) _) _
    | backend reason => exact append_ne_empty (by decide) _
  | unknownLevel | relativeDirectory => exact append_ne_empty (append_ne_empty (by decide) _) _
  | otherDirectory | otherLevel =>
    exact append_ne_empty (append_ne_empty (append_ne_empty (append_ne_empty (by decide) _) _) _) _

theorem answerText_eq_empty_iff (answer : Except SetupError Unit) :
    answerText answer = "" ↔ answer = .ok () := by
  cases answer with
  | ok u => exact ⟨fun _ => rfl, fun _ => rfl⟩
  | error e => simp [answerText, message_ne_empty e]

/-- Every log answers every configuration as it is to be answered. -/
theorem configure_answered (storage : Storage) (level directory : String) (s : Session) :
    Answered storage level directory s (s.configure storage level directory).1
      (s.configure storage level directory).2 where
  accepted_off := Session.configure_off_eq_ok_iff
  refused_off := Session.configure_off_eq_error_iff
  accepted_on _ := Session.configure_on_eq_ok_iff
  refused_on _ := Session.configure_on_eq_error_iff
  unchanged := Session.configure_unchanged
  fromBar := by
    refine ⟨?_, answerText_eq_empty_iff _⟩
    unfold CommandBar.configureLog
    split <;> rename_i h <;> rw [h] <;> rfl

/--
CORRECT: over every run the log is off until the first configuration that is accepted, and from then
on it has the level and the directory that this one asked for, as it spelled them. Every
configuration on the way is answered as it is to be answered by the log as it is then, from the
command bar as well, and one that is refused changes nothing. The parts by which directories are
compared are the names that their texts spell.
-/
theorem configured_once (run : List Moment) :
    (∀ n, (logOf (run.take n)).setup = none ↔
      ∀ place < n, answerAt? run place ≠ some (.ok ())) ∧
    (∀ place, StartsAt run place →
      ∃ m level directory asked, run[place]? = some m ∧ m.step = .configure level directory ∧
        Asks level directory asked ∧ ∀ n, place < n → (logOf (run.take n)).setup = some asked) ∧
    (∀ place m level directory, run[place]? = some m → m.step = .configure level directory →
      ∃ answer, answerAt? run place = some answer ∧
        Answered m.storage level directory (logOf (run.take place)) answer
          (logOf (run.take (place + 1)))) ∧
    (∀ (d : Directory) (names : List (List Char)),
      d.parts = names ↔ Spells d.text.toList names) := by
  refine ⟨setup_take_eq_none_iff run, ?_, ?_, Directory.parts_eq_iff⟩
  · intro place hstart
    obtain ⟨m, level, directory, asked, hm, hstep, hasked, hafter⟩ := hstart.started
    refine ⟨m, level, directory, asked, hm, hstep, hasked, fun n hn => ?_⟩
    exact setup_take_of_le (by rw [hafter, Session.started_eq]) (Nat.succ_le_of_lt hn)
  · intro place m level directory hm hstep
    obtain ⟨storage, clock, step⟩ := m
    obtain rfl : step = .configure level directory := hstep
    have hanswered :=
      configure_answered storage level directory (logOf (run.take place))
    refine ⟨((logOf (run.take place)).configure storage level directory).1, ?_, ?_⟩
    · rw [answerAt?, hm]
      rfl
    · rw [logOf_take_succ hm]
      exact hanswered

/--
A run with a directory that cannot be made, the start in another one, its setup again in another
spelling, a spelling that leads there over two dots, and another level.
-/
theorem configured_once_again : ∃ (run : List Moment) (active : Setup),
    StartsAt run 1 ∧ active.level = .warn ∧ active.directory.text = "/var//log/" ∧
    (∀ n, 1 < n → (logOf (run.take n)).setup = some active) ∧
    answerAt? run 0 ≠ some (.ok ()) ∧ answerAt? run 2 = some (.ok ()) ∧
    (answerAt? run 3).map answerText = some
      "logging already initialized at `/var//log/`; refusing to switch to `/var/x/../log`" ∧
    (answerAt? run 4).map answerText = some
      "logging already initialized with level `warn`; refusing to switch to `info`" := by
  let now : Instant :=
    { date := { year := 2024, month := 2, day := 29 }
      time := { hour := 8, minute := 0 }
      second := 0 }
  let run : List Moment :=
    [⟨.plain, now, .configure "info" "/dev/null"⟩,
      ⟨.plain, now, .configure " WARNING " " /var//log/ "⟩,
      ⟨.plain, now, .configure "warn" "/var/./log"⟩,
      ⟨.plain, now, .configure "warn" "/var/x/../log"⟩,
      ⟨.plain, now, .configure "info" "/var/log"⟩]
  have h0 : answerAt? run 0 ≠ some (.ok ()) := by decide +kernel
  have h1 : answerAt? run 1 = some (.ok ()) := by decide +kernel
  have h2 : answerAt? run 2 = some (.ok ()) := by decide +kernel
  have h3 : (answerAt? run 3).map answerText = some
    "logging already initialized at `/var//log/`; refusing to switch to `/var/x/../log`" := by
    decide +kernel
  have h4 : (answerAt? run 4).map answerText = some
    "logging already initialized with level `warn`; refusing to switch to `info`" := by
    decide +kernel
  have hstart : StartsAt run 1 := by
    refine ⟨h1, fun earlier h => ?_⟩
    obtain rfl := Nat.lt_one_iff.1 h
    exact h0
  obtain ⟨-, hon, -⟩ := configured_once run
  obtain ⟨m, level, directory, active, hm, hstep, hasked, hafter⟩ := hon 1 hstart
  cases hm
  cases hstep
  refine ⟨run, active, hstart, ?_, ?_, hafter, h0, h2, h3, h4⟩
  · exact hasked.level_eq (by decide +kernel)
  · rw [hasked.directory]
    decide +kernel

end Agenda.Activity
