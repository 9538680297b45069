import Agenda.Proofs.Log.Configuration
import Mathlib.Data.List.Induction
import Mathlib.Tactic.IntervalCases

/-!
What the log of a process holds after a run. `Process` takes the log apart: the setup that later
configurations are compared with, the sink that events go to, the hooks that report a crash, the
directories that were made and the lines that were written, each with its directory. Starting the
log sets these up one after the other, and a crash is reported by every hook. A process follows the
session of the same run, so it has one hook as soon as the log is on and none before. What one
moment adds to a log that is on is said kind by kind in `Adds`. CORRECT: after the first
configuration that is accepted there is its event, then those of all later moments, as far as the
level keeps them, all in its directory; without one there is no line at all.

      moment          made     sink    hooks   lines
      start           + dir    set     1       + the event of the start
      refused         + dir if only the backend failed
      crash                                    + one for each hook
      other step                               + its events
-/

namespace Agenda.Activity
open Agenda.Calendar Agenda.Log Agenda.Log.Session

/-- The log of a process in its parts. -/
structure Process where
  active : Option Setup := none
  sink : Option Setup := none
  hooked : Bool := false
  hooks : Nat := 0
  made : List Directory := []
  lines : List (Directory × Event) := []

namespace Process

/-- Gives an event to the sink, which writes it into its directory if its level keeps it. -/
def emit (p : Process) (e : Event) : Process :=
  match p.sink with
  | some sink =>
    if sink.level.keeps e.level then { p with lines := p.lines ++ [(sink.directory, e)] } else p
  | none => p

/-- Gives events to the sink in order. -/
def emitAll (p : Process) (events : List Event) : Process := events.foldl emit p

/-- Puts one more hook in front of those that report a crash, the first time it is asked to. -/
def hookOnce (p : Process) : Process :=
  if p.hooked then p else { p with hooked := true, hooks := p.hooks + 1 }

/-- Starts the log: the directory, the sink, the hook, the event, and last the active setup. -/
def start (storage : Storage) (asked : Setup) (p : Process) : Except SetupError Unit × Process :=
  match storage asked.directory with
  | some (.directory reason) => (.error (.notStarted asked.directory (.directory reason)), p)
  | some (.backend reason) =>
    (.error (.notStarted asked.directory (.backend reason)),
      { p with made := p.made ++ [asked.directory] })
  | none =>
    let p := { p with made := p.made ++ [asked.directory], sink := some asked }
    let p := p.hookOnce.emit (startEvent asked)
    (.ok (), { p with active := some asked })

/-- Configures the log. -/
def configure (storage : Storage) (level directory : String) (p : Process) :
    Except SetupError Unit × Process :=
  match Setup.ofTexts level directory with
  | .error e => (.error e, p)
  | .ok asked =>
    match p.active with
    | some active => (compareSetups active asked, p)
    | none => p.start storage asked

/-- A crash is reported by every hook. -/
def crash (location : String) (payload : Payload) (p : Process) : Process :=
  p.emitAll (List.replicate p.hooks (crashEvent location payload))

/-- The process after a moment. -/
def after (p : Process) (m : Moment) : Process :=
  match m.step with
  | .configure level directory => (p.configure m.storage level directory).2
  | .crash location payload => p.crash location payload
  | _ => p.emitAll m.events

end Process

/-- The process after a run that begins without a log. -/
def processOf (run : List Moment) : Process := run.foldl Process.after {}

/-- A process and a session are about the same log. -/
structure Follows (p : Process) (s : Session) : Prop where
  active : p.active = s.setup
  sink : p.sink = s.setup
  hooked : p.hooked = s.setup.isSome
  hooks : p.hooks = if s.setup.isSome then 1 else 0
  lines : p.lines = s.setup.toList.flatMap fun setup => s.recorded.map (setup.directory, ·)
  quiet : s.setup = none → s.recorded = []

/-- What a moment adds to the lines of a log that is on. -/
structure Adds (active : Setup) (m : Moment) (before after : Process) : Prop where
  configured : ∀ level directory, m.step = .configure level directory → after = before
  event : ∀ e, m.step = .event e →
    after.lines = before.lines ++ if active.level.keeps e.level then [(active.directory, e)] else []
  interpreted : ∀ command now, m.step = .interpret command now →
    after.lines = before.lines ++ if active.level.keeps .debug then
      [(active.directory, Command.interpretEvent command (Command.interpret command now))] else []
  typed : ∀ now command, m.step = .typed now command →
    after.lines = before.lines ++
      (kept active.level (CommandBar.interpretTyped m.clock now command).2).map
        (active.directory, ·)
  spoken : ∀ now transcript, m.step = .spoken now transcript →
    after.lines = before.lines ++
      (kept active.level (CommandBar.interpretSpoken m.clock now transcript).2).map
        (active.directory, ·)
  crashed : ∀ location payload, m.step = .crash location payload →
    after.lines = before.lines ++ [(active.directory, crashEvent location payload)]

/-! ### The session after a moment -/

/-- A log that is on records what a moment causes and changes nothing else. -/
theorem Moment.logAfter_of_on {s : Session} {active : Setup} (h : s.setup = some active)
    (m : Moment) :
    m.logAfter s = { s with recorded := s.recorded ++ kept active.level m.events } := by
  obtain ⟨storage, clock, step⟩ := m
  cases step with
  | configure level directory =>
    have hsame : Moment.logAfter s ⟨storage, clock, .configure level directory⟩ = s :=
      configure_unchanged (Or.inl (by simp [h]))
    rw [hsame]
    simp [Moment.events, Step.events]
  | interpret _ _ | typed _ _ | spoken _ _ | event _ | crash _ _ => exact recordAll_of_on h _

/-- The file of a log that is on lies in its directory. -/
theorem filePath?_of_on {s : Session} {active : Setup} (h : s.setup = some active) {path : String}
    (hpath : s.filePath? = some path) : path = active.directory.file fileName := by
  simp only [filePath?, h] at hpath
  split at hpath
  · cases hpath
  · exact (Option.some.inj hpath).symm

/-! ### The process follows the session -/

theorem Process.emit_of_on {p : Process} {sink : Setup} (h : p.sink = some sink) (e : Event) :
    p.emit e = { p with lines := p.lines ++ (kept sink.level [e]).map (sink.directory, ·) } := by
  obtain ⟨active, sink', hooked, hooks, made, lines⟩ := p
  obtain rfl : sink' = some sink := h
  cases hk : sink.level.keeps e.level <;> simp [emit, kept, hk]

/-- A sink writes the events that its level keeps, in order and into its directory. -/
theorem Process.emitAll_of_on {p : Process} {sink : Setup} (h : p.sink = some sink)
    (events : List Event) :
    p.emitAll events =
      { p with lines := p.lines ++ (kept sink.level events).map (sink.directory, ·) } := by
  induction events generalizing p with
  | nil => simp [emitAll]
  | cons e events ih =>
    have hrest : (p.emit e).emitAll events = p.emitAll (e :: events) := rfl
    have hnext : (p.emit e).sink = some sink := by rw [emit_of_on h, h]
    rw [← hrest, ih hnext, emit_of_on h, kept_cons _ e events, List.map_append, List.append_assoc]

/-- Without a sink events are lost. -/
theorem Process.emitAll_of_off {p : Process} (h : p.sink = none) (events : List Event) :
    p.emitAll events = p := by
  induction events with
  | nil => rfl
  | cons e events ih =>
    have hsame : p.emit e = p := by simp only [emit, h]
    have hrest : (p.emit e).emitAll events = p.emitAll (e :: events) := rfl
    rw [← hrest, hsame, ih]

/-- A log that is on does not look at the storage, whatever is asked for. -/
theorem Process.configure_of_on {p : Process} {active : Setup} (h : p.active = some active)
    (storage : Storage) (level directory : String) :
    (p.configure storage level directory).2 = p := by
  unfold configure
  rw [h]
  split <;> rfl

/-- A crash is severe enough for every level. -/
theorem kept_crashEvent (level : Level) (location : String) (payload : Payload) :
    kept level [crashEvent location payload] = [crashEvent location payload] := by
  cases level <;> rfl

namespace Follows

theorem initial : Follows {} {} := ⟨rfl, rfl, rfl, rfl, rfl, fun _ => rfl⟩

/-- Events keep the process and the session together. -/
theorem emitAll {p : Process} {s : Session} (h : Follows p s) (events : List Event) :
    Follows (p.emitAll events) (s.recordAll events) := by
  cases hs : s.setup with
  | none =>
    rw [Process.emitAll_of_off (h.sink.trans hs), recordAll_of_off hs]
    exact h
  | some active =>
    rw [Process.emitAll_of_on (h.sink.trans hs), recordAll_of_on hs]
    refine ⟨h.active, h.sink, h.hooked, h.hooks, ?_, ?_⟩
    · simp [h.lines, hs]
    · simp [hs]

/-- So does a crash, which every hook reports: there is one iff the log is on. -/
theorem crash {p : Process} {s : Session} (h : Follows p s) (location : String)
    (payload : Payload) :
    Follows (p.crash location payload) (s.recordAll [crashEvent location payload]) := by
  unfold Process.crash
  rw [h.hooks]
  cases hs : s.setup with
  | none =>
    rw [recordAll_of_off hs]
    exact h
  | some active => exact h.emitAll [crashEvent location payload]

/-- A crash leaves one line in a log that is on, whatever its level. -/
theorem crash_lines {p : Process} {s : Session} (h : Follows p s) {active : Setup}
    (hs : s.setup = some active) (location : String) (payload : Payload) :
    (p.crash location payload).lines =
      p.lines ++ [(active.directory, crashEvent location payload)] := by
  have honce : p.hooks = 1 := by rw [h.hooks, hs]; rfl
  rw [Process.crash, honce, Process.emitAll_of_on (h.sink.trans hs), List.replicate_one,
    kept_crashEvent]
  rfl

/-- So does a start that works: a log that is off has no hook yet and no line. -/
theorem start {p : Process} {s : Session} (h : Follows p s) (hs : s.setup = none)
    {storage : Storage} {asked : Setup} (hstorage : storage asked.directory = none) :
    (p.start storage asked).1 = .ok () ∧ Follows (p.start storage asked).2 (s.started asked) := by
  have hhooked : p.hooked = false := by rw [h.hooked, hs]; rfl
  have hhooks : p.hooks = 0 := by rw [h.hooks, hs]; rfl
  have hlines : p.lines = [] := by rw [h.lines, hs]; rfl
  simp only [Process.start, hstorage, Process.hookOnce, hhooked, hhooks, Bool.false_eq_true,
    if_false]
  rw [Process.emit_of_on rfl, started_eq, h.quiet hs]
  refine ⟨trivial, rfl, rfl, rfl, rfl, ?_, fun hnone => absurd hnone (Option.some_ne_none _)⟩
  simp [hlines]

/-- So does a configuration, and both give the same answer. -/
theorem configure {p : Process} {s : Session} (h : Follows p s) (storage : Storage)
    (level directory : String) :
    (p.configure storage level directory).1 = (s.configure storage level directory).1 ∧
    Follows (p.configure storage level directory).2 (s.configure storage level directory).2 := by
  unfold Process.configure Session.configure
  cases Setup.ofTexts level directory with
  | error e => exact ⟨rfl, h⟩
  | ok asked =>
    simp only [h.active]
    cases hs : s.setup with
    | some active => exact ⟨rfl, h⟩
    | none =>
      rcases hstorage : storage asked.directory with _ | ⟨reason | reason⟩
      · exact h.start hs hstorage
      · simp only [Process.start, hstorage]
        exact ⟨trivial, h⟩
      · simp only [Process.start, hstorage]
        exact ⟨trivial, ⟨h.active, h.sink, h.hooked, h.hooks, h.lines, h.quiet⟩⟩

/-- So does every moment. -/
theorem after {p : Process} {s : Session} (h : Follows p s) (m : Moment) :
    Follows (p.after m) (m.logAfter s) := by
  obtain ⟨storage, clock, step⟩ := m
  cases step with
  | configure level directory => exact (h.configure storage level directory).2
  | crash location payload => exact h.crash location payload
  | interpret _ _ | typed _ _ | spoken _ _ | event _ => exact h.emitAll _

/-- A moment adds to a log that is on what its level keeps, and a configuration adds nothing. -/
theorem adds {p : Process} {s : Session} (h : Follows p s) {active : Setup}
    (hs : s.setup = some active) (m : Moment) : Adds active m p (p.after m) := by
  obtain ⟨storage, clock, step⟩ := m
  have hall : ∀ events, (p.emitAll events).lines =
      p.lines ++ (kept active.level events).map (active.directory, ·) := by
    intro events
    rw [Process.emitAll_of_on (h.sink.trans hs)]
  have hone : ∀ e : Event, (p.emitAll [e]).lines =
      p.lines ++ if active.level.keeps e.level then [(active.directory, e)] else [] := by
    intro e
    rw [hall]
    cases hkeeps : active.level.keeps e.level <;> simp [kept, hkeeps]
  constructor
  case configured =>
    rintro level directory rfl
    exact Process.configure_of_on (h.active.trans hs) _ _ _
  case event =>
    rintro e rfl
    exact hone e
  case interpreted =>
    rintro command now rfl
    exact hone (Command.interpretEvent command (Command.interpret command now))
  case typed =>
    rintro now command rfl
    exact hall _
  case spoken =>
    rintro now transcript rfl
    exact hall _
  case crashed =>
    rintro location payload rfl
    exact h.crash_lines hs location payload

/-- So the two stay together over every run. -/
theorem ofRun (run : List Moment) : Follows (processOf run) (logOf run) := by
  induction run using List.reverseRecOn with
  | nil => exact initial
  | append_singleton run m ih =>
    simp only [processOf, logOf, List.foldl_append, List.foldl_cons, List.foldl_nil]
    exact ih.after m

end Follows

/-! ### A whole run -/

theorem processOf_take_succ {run : List Moment} {place : Nat} {m : Moment}
    (h : run[place]? = some m) :
    processOf (run.take (place + 1)) = (processOf (run.take place)).after m := by
  rw [List.take_add_one, h, Option.toList_some, processOf, List.foldl_append]
  rfl

/-- The run lemma for what a log that is on has recorded. -/
theorem foldl_logAfter_of_on (rest : List Moment) {s : Session} {active : Setup}
    (h : s.setup = some active) :
    rest.foldl Moment.logAfter s =
      { s with recorded := s.recorded ++ kept active.level (rest.flatMap Moment.events) } := by
  induction rest generalizing s with
  | nil => simp
  | cons m rest ih =>
    rw [List.foldl_cons, ih (m.setup_of_on h), m.logAfter_of_on h, List.flatMap_cons, kept_append,
      List.append_assoc]

/-- Where the log starts, its first event is the one of the start; the later ones follow. -/
theorem StartsAt.logOf_eq {run : List Moment} {place : Nat} {asked : Setup}
    (h : StartsAt run place)
    (hstarted : logOf (run.take (place + 1)) = (logOf (run.take place)).started asked) :
    logOf run =
      { setup := some asked, recorded := kept asked.level (startEvent asked ::
          (run.drop (place + 1)).flatMap Moment.events) } := by
  have hquiet : (logOf (run.take place)).recorded = [] :=
    (Follows.ofRun _).quiet ((setup_take_eq_none_iff run place).2 h.first)
  rw [started_eq, hquiet] at hstarted
  have hsplit : logOf run =
      (run.drop (place + 1)).foldl Moment.logAfter (logOf (run.take (place + 1))) := by
    conv_lhs => rw [← List.take_append_drop (place + 1) run, logOf, List.foldl_append]
    rfl
  rw [hsplit, foldl_logAfter_of_on _ (by rw [hstarted]), hstarted, List.nil_append, ← kept_cons]

/--
CORRECT: over every run the process follows the session. Until a configuration is accepted there is
no line and no hook. From the first one on the lines are the event of the start and then the events
of all later moments, those that the level keeps, in their order and all in the directory that was
asked for, where the file of the session is as well. Step by step, a later event or interpretation
adds its line iff the level keeps it, the command bar adds what the level keeps of its events, a
crash adds its event once, and a configuration changes nothing at all.
-/
theorem log_has_what_is_due (run : List Moment) :
    Follows (processOf run) (logOf run) ∧
    (∀ n, (∀ place < n, answerAt? run place ≠ some (.ok ())) →
      (processOf (run.take n)).lines = [] ∧ (processOf (run.take n)).hooks = 0) ∧
    ∀ place, StartsAt run place →
      ∃ m level directory asked, run[place]? = some m ∧ m.step = .configure level directory ∧
        Asks level directory asked ∧
        (processOf run).lines =
          (kept asked.level (startEvent asked ::
            (run.drop (place + 1)).flatMap Moment.events)).map (asked.directory, ·) ∧
        (∀ path, (logOf run).filePath? = some path → path = asked.directory.file fileName) ∧
        ∀ later m, place < later → run[later]? = some m →
          Adds asked m (processOf (run.take later)) (processOf (run.take (later + 1))) := by
  refine ⟨Follows.ofRun run, ?_, ?_⟩
  · intro n hn
    have hfollows := Follows.ofRun (run.take n)
    have hoff := (setup_take_eq_none_iff run n).2 hn
    exact ⟨by rw [hfollows.lines, hoff]; rfl, by rw [hfollows.hooks, hoff]; rfl⟩
  · intro place hstart
    obtain ⟨m, level, directory, asked, hm, hstep, hasked, hstarted⟩ := hstart.started
    have hon : ∀ n, place < n → (logOf (run.take n)).setup = some asked := fun n hn =>
      setup_take_of_le (by rw [hstarted, started_eq]) (Nat.succ_le_of_lt hn)
    have hend := hstart.logOf_eq hstarted
    refine ⟨m, level, directory, asked, hm, hstep, hasked, ?_, ?_, ?_⟩
    · rw [(Follows.ofRun run).lines, hend]
      simp
    · intro path hpath
      rw [hend] at hpath
      exact filePath?_of_on rfl hpath
    · intro later m hlater hm
      rw [processOf_take_succ hm]
      exact (Follows.ofRun (run.take later)).adds (hon later hlater) m

/-- A crash, a refused start, the start at a level, an event, words, another level, and a crash. -/
def eventful (now : Instant) (level : String) : List Moment :=
  [⟨.plain, now, .crash "src/main.rs:3" (.text "early")⟩,
    ⟨.plain, now, .configure "info" "/dev/null"⟩,
    ⟨.plain, now, .configure level "/var/log"⟩,
    ⟨.plain, now, .event ⟨.info, "timeflow_core", "event=other"⟩⟩,
    ⟨.plain, now, .interpret "Gym" now⟩,
    ⟨.plain, now, .configure "trace" "/tmp"⟩,
    ⟨.plain, now, .crash "src/main.rs:7" .other⟩]

/-- At `warn` the crash alone is kept, at `info` the start and the event are as well. -/
theorem log_has_the_crash : ∃ now : Instant,
    (∃ active : Setup, StartsAt (eventful now "warn") 2 ∧ active.level = .warn ∧
      active.directory.text = "/var/log" ∧
      (processOf (eventful now "warn")).lines =
        [(active.directory, crashEvent "src/main.rs:7" .other)] ∧
      (processOf ((eventful now "warn").take 6)).lines = []) ∧
    (∃ active : Setup, StartsAt (eventful now "info") 2 ∧ active.level = .info ∧
      active.directory.text = "/var/log" ∧
      (processOf (eventful now "info")).lines =
        [(active.directory, startEvent active),
          (active.directory, ⟨.info, "timeflow_core", "event=other"⟩),
          (active.directory, crashEvent "src/main.rs:7" .other)]) := by
  let now : Instant :=
    { date := { year := 2024, month := 2, day := 29 }
      time := { hour := 8, minute := 0 }
      second := 0 }
  have hlog : ∀ (text : String) (level : Level), StartsAt (eventful now text) 2 →
      Level.ofText text = .ok level → ∃ active : Setup, active.level = level ∧
        active.directory.text = "/var/log" ∧ (processOf (eventful now text)).lines =
          (kept level (startEvent active :: ((eventful now text).drop 3).flatMap Moment.events)).map
            (active.directory, ·) := by
    intro text level hstart hread
    obtain ⟨-, -, hon⟩ := log_has_what_is_due (eventful now text)
    obtain ⟨m, _, _, active, hm, hstep, hasked, hlines, -⟩ := hon 2 hstart
    cases hm
    cases hstep
    have hlevel : active.level = level := hasked.level_eq hread
    refine ⟨active, hlevel, ?_, by rw [hlines, hlevel]⟩
    rw [hasked.directory]
    decide +kernel
  have hwarn : StartsAt (eventful now "warn") 2 := by
    refine ⟨by decide +kernel, fun earlier h => ?_⟩
    interval_cases earlier <;> decide +kernel
  have hinfo : StartsAt (eventful now "info") 2 := by
    refine ⟨by decide +kernel, fun earlier h => ?_⟩
    interval_cases earlier <;> decide +kernel
  refine ⟨now, ?_, ?_⟩
  · obtain ⟨active, hlevel, hdirectory, hlines⟩ := hlog "warn" .warn hwarn (by decide +kernel)
    exact ⟨active, hwarn, hlevel, hdirectory, hlines, by decide +kernel⟩
  · obtain ⟨active, hlevel, hdirectory, hlines⟩ := hlog "info" .info hinfo (by decide +kernel)
    exact ⟨active, hinfo, hlevel, hdirectory, hlines⟩

end Agenda.Activity
