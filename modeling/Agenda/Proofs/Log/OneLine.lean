import Agenda.Proofs.Log.Discretion

/-!
Messages that are one line. A message quotes labels, numbers and identifiers, which never break a
line, and now and then a text from outside. The payload of a crash is flattened before it is quoted;
the details of a gateway error are not, and they are the only such text of a run. CORRECT is the
exact condition: all messages of a run of the service are one line iff the details of every error
that refuses words are, and the command bar and a crash never break a line, whatever they are given.

      event of          quotes                            one line
      interpretation    label and numbers                 always
      blank words       nothing                           always
      stored draft      identifier                        always
      refused draft     details of the gateway's error    iff the details are
      illegible present nothing                           always
      crash             place in the code, payload        iff the place is
-/

namespace Agenda.Log

/-- A text without a line break. -/
def OneLine (s : String) : Prop := ∀ c ∈ s.toList, c ≠ '\n' ∧ c ≠ '\r'

instance (s : String) : Decidable (OneLine s) :=
  decidable_of_iff ((s.toList.all fun c => c != '\n' && c != '\r') = true) (by simp [OneLine])

/-! ### Parts of a message -/

/-- A text is one line iff its parts are. -/
theorem oneLine_append {s t : String} : OneLine (s ++ t) ↔ OneLine s ∧ OneLine t := by
  simp only [OneLine, String.toList_append, List.forall_mem_append]

theorem oneLine_ofList {cs : List Char} :
    OneLine (String.ofList cs) ↔ ∀ c ∈ cs, c ≠ '\n' ∧ c ≠ '\r' := by
  simp only [OneLine, String.toList_ofList]

/-- The digits of a number are letters and decimal digits in every base. -/
theorem exists_digitChar_of_mem_toDigits {base n : Nat} (hbase : 1 < base) {c : Char}
    (h : c ∈ Nat.toDigits base n) : ∃ k, c = Nat.digitChar k := by
  induction n using Nat.strongRecOn with
  | ind n ih =>
    rcases Nat.lt_or_ge n base with hlt | hle
    · rw [Nat.toDigits_of_lt_base hlt] at h
      exact ⟨n, List.mem_singleton.1 h⟩
    · rw [Nat.toDigits_of_base_le hbase hle] at h
      rcases List.mem_append.1 h with hfront | hlast
      · exact ih (n / base) (Nat.div_lt_self (by omega) hbase) hfront
      · exact ⟨n % base, List.mem_singleton.1 hlast⟩

/-- No digit breaks a line. -/
theorem not_break_of_mem_toDigits {base n : Nat} (hbase : 1 < base) {c : Char}
    (h : c ∈ Nat.toDigits base n) : c ≠ '\n' ∧ c ≠ '\r' := by
  obtain ⟨k, rfl⟩ := exists_digitChar_of_mem_toDigits hbase h
  exact ⟨Nat.digitChar_ne '\n' (by decide), Nat.digitChar_ne '\r' (by decide)⟩

theorem oneLine_toString_nat (n : Nat) : OneLine (toString n) := by
  rw [Nat.toString_eq_repr, Nat.repr_eq_ofList_toDigits, oneLine_ofList]
  exact fun c hc => not_break_of_mem_toDigits (by decide) hc

theorem oneLine_toString_bool (b : Bool) : OneLine (toString b) := by
  cases b <;> decide

/-- What is flattened is one line. -/
theorem oneLine_sanitize (s : String) (limit : Nat) : OneLine (sanitize s limit) := by
  have hflat : ∀ c ∈ s.toList.map flatten, c ≠ '\n' ∧ c ≠ '\r' := by
    rintro _ hc
    obtain ⟨c, -, rfl⟩ := List.mem_map.1 hc
    unfold flatten
    split
    · decide
    · rename_i hne
      exact not_or.1 hne
  have hdots : ∀ c ∈ ['.', '.', '.'], c ≠ '\n' ∧ c ≠ '\r' := by simp
  rw [sanitize, oneLine_ofList, sanitizeChars]
  split
  · rw [List.forall_mem_append]
    exact ⟨fun c hc => hflat c (List.mem_of_mem_take hc), hdots⟩
  · exact hflat

/-- A crash is told in one line iff the place in the code is, whatever the payload is. -/
theorem oneLine_crashEvent_iff (location : String) (payload : Session.Payload) :
    OneLine (Session.crashEvent location payload).message ↔ OneLine location := by
  have hpayload : OneLine payload.summary := by
    cases payload <;> exact oneLine_sanitize _ _
  simp only [Session.crashEvent, oneLine_append, toString]
  constructor
  · rintro ⟨⟨⟨-, hlocation⟩, -⟩, -⟩
    exact hlocation
  · intro hlocation
    exact ⟨⟨⟨by decide, hlocation⟩, by decide⟩, by decide, hpayload⟩

end Agenda.Log

namespace Agenda.Command
open Agenda.Log

/-- The event of an interpretation is one line, whatever was interpreted. -/
theorem oneLine_interpretEvent (command : String) (result : Option Interpretation) :
    OneLine (interpretEvent command result).message := by
  cases result with
  | none =>
    simp only [interpretEvent]
    decide
  | some i =>
    have hlabel : OneLine i.cue.label := by
      cases i.cue <;> simp only [Cue.label] <;> decide
    have htime := oneLine_toString_bool i.matched.isSome
    have hlength := oneLine_toString_nat command.length
    simp only [interpretEvent, oneLine_append]
    exact ⟨⟨⟨by decide, hlabel⟩, by decide⟩, ⟨⟨by decide, htime⟩, by decide⟩, hlength⟩

end Agenda.Command

namespace Agenda.Service
open Agenda.Calendar Agenda.Command Agenda.Log Agenda.Text
variable {σ : Type}

/-- What a gateway tells about an error. -/
def GatewayError.details : GatewayError → String
  | .unavailable details => details
  | .rejected details => details

theorem GatewayError.oneLine_message_iff (error : GatewayError) :
    OneLine error.message ↔ OneLine error.details := by
  have hkind : ∀ front : String, OneLine front →
      (OneLine (front ++ error.details) ↔ OneLine error.details) := by
    intro front hfront
    rw [oneLine_append]
    exact and_iff_right hfront
  cases error with
  | unavailable details => exact hkind "schedule store unavailable: " (by decide)
  | rejected details => exact hkind "schedule store rejected draft: " (by decide)

/-- An identifier is one line. -/
theorem EntryId.oneLine_text (id : EntryId) : OneLine id.text := by
  have hdigits : ∀ c ∈ paddedHex 32 id.value.toNat, c ≠ '\n' ∧ c ≠ '\r' := by
    intro c hc
    rcases List.mem_append.1 hc with hzero | hdigit
    · rw [List.eq_of_mem_replicate hzero]
      decide
    · exact not_break_of_mem_toDigits (by decide) hdigit
  have hgroup : ∀ start length : Nat,
      ∀ c ∈ ((paddedHex 32 id.value.toNat).drop start).take length, c ≠ '\n' ∧ c ≠ '\r' :=
    fun start length c hc => hdigits c (List.mem_of_mem_drop (List.mem_of_mem_take hc))
  have hhyphen : ('-' : Char) ≠ '\n' ∧ ('-' : Char) ≠ '\r' := by decide
  rw [EntryId.text, oneLine_ofList]
  simp only [List.forall_mem_append, List.forall_mem_cons]
  exact ⟨⟨⟨⟨hgroup 0 8, hhyphen, hgroup 8 4⟩, hhyphen, hgroup 12 4⟩, hhyphen, hgroup 16 4⟩, hhyphen,
    hgroup 20 12⟩

/-- The event for the end of a command is one line unless it tells of an error that is not. -/
theorem oneLine_handleEvent_iff (result : Except CommandError Outcome) :
    (∀ e ∈ (handleEvent? result).toList, OneLine e.message) ↔
      ∀ error, result = .error (.gateway error) → OneLine error.details := by
  rcases result with (_ | fault | error) | (id | _)
  · simp [handleEvent?]
  · simp [handleEvent?]
  · have hfront :
        OneLine "event=command_handle module=service status=error stage=submit error=" := by decide
    simp [handleEvent?, oneLine_append, toString, hfront, error.oneLine_message_iff]
  · have hfront : OneLine "event=command_handle module=service status=ok entry_id=" := by decide
    simp [handleEvent?, oneLine_append, toString, hfront, id.oneLine_text]
  · have hmessage : OneLine "event=command_handle module=service status=not_understood" := by decide
    simp [handleEvent?, hmessage]

/-- Over every gateway: what a command causes is one line unless the gateway's error is not. -/
theorem oneLine_handleCommand_iff (g : Gateway σ) (text : String) (now : Instant) (state : σ) :
    (∀ e ∈ (handleCommand g text now state).events, OneLine e.message) ↔
      ∀ error, (handleCommand g text now state).result = .error (.gateway error) →
        OneLine error.details := by
  have hevents : (handleCommand g text now state).events =
      interpretEvent text (interpret text now) ::
        (handleEvent? (handleCommand g text now state).result).toList := rfl
  rw [hevents, List.forall_mem_cons, oneLine_handleEvent_iff]
  exact and_iff_right (oneLine_interpretEvent text _)

/-- The ledger answers words with an error iff they are not blank and it fails with that error. -/
theorem refused_iff (text : String) (now : Instant) (ledger : Ledger) (error : GatewayError) :
    (handleCommand Ledger.gateway text now ledger).result = .error (.gateway error) ↔
      isBlankText text = false ∧ ledger.failure = some error := by
  have hanswers := handleCommand_answers text now ledger
  cases hblank : isBlankText text with
  | true => simp [(hanswers.blank hblank).1]
  | false =>
    cases hfailure : ledger.failure with
    | some other => simp [(hanswers.refused other hblank hfailure).1]
    | none =>
      obtain ⟨draft, id, -, -, hresult, -, -⟩ := hanswers.stored hblank hfailure
      simp [hresult]

/-! ### A whole run -/

theorem Step.events_of_not_said {step : Step} (h : step.said? = none) (ledger : Ledger) :
    step.events ledger = [] := by
  cases step with
  | command text now => cases h
  | transcript spoken now =>
    have hfinal : spoken.isFinal = false := by simpa [Step.said?] using h
    simp [Step.events, Step.reply?, handleTranscript, hfinal]
  | fail error => rfl
  | recover => rfl

/-- The step lemma: a step breaks a line only where the ledger refuses its words. -/
theorem Step.oneLine_events_iff (ledger : Ledger) (step : Step) :
    (∀ e ∈ step.events ledger, OneLine e.message) ↔
      ∀ text now error, step.said? = some (text, now) → isBlankText text = false →
        ledger.failure = some error → OneLine error.details := by
  cases hsaid : step.said? with
  | none => simp [events_of_not_said hsaid]
  | some words =>
    obtain ⟨text, now⟩ := words
    have hevents : step.events ledger = (handleCommand Ledger.gateway text now ledger).events := by
      rw [Step.events, (reply?_of_said hsaid ledger).1]
      rfl
    rw [hevents, oneLine_handleCommand_iff]
    simp only [refused_iff]
    constructor
    · rintro h _ _ error heq hblank hfailure
      cases heq
      exact h error ⟨hblank, hfailure⟩
    · rintro h error ⟨hblank, hfailure⟩
      exact h text now error rfl hblank hfailure

/-- The events of a run are those of its steps, each with the ledger that it meets. -/
theorem mem_eventsOf {ledger : Ledger} {steps : List Step} {e : Event} :
    e ∈ eventsOf ledger steps ↔ ∃ place, ∃ step : Step, steps[place]? = some step ∧
      e ∈ step.events (ledgerAfter ledger (steps.take place)) := by
  rw [eventsOf, List.mem_flatMap]
  constructor
  · rintro ⟨reply, hreply, he⟩
    obtain ⟨place, hplace⟩ := List.mem_iff_getElem?.1 hreply
    rw [getElem?_replies] at hplace
    obtain ⟨step, hstep, rfl⟩ := Option.map_eq_some_iff.1 hplace
    exact ⟨place, step, hstep, he⟩
  · rintro ⟨place, step, hstep, he⟩
    refine ⟨_, List.mem_iff_getElem?.2 ⟨place, ?_⟩, he⟩
    rw [getElem?_replies, hstep, Option.map_some]

/-- A run refuses words with an error: they are not blank, and the gateway fails with it by then. -/
def Refuses (steps : List Step) (error : GatewayError) : Prop :=
  ∃ place step text now, steps[place]? = some step ∧ step.said? = some (text, now) ∧
    isBlankText text = false ∧ failureAfter (steps.take place) = some error

/-- The run lemma: all messages are one line iff every error that refuses words is told in one. -/
theorem oneLine_eventsOf_iff (steps : List Step) :
    (∀ e ∈ eventsOf {} steps, OneLine e.message) ↔
      ∀ error, Refuses steps error → OneLine error.details := by
  constructor
  · rintro h error ⟨place, step, text, now, hstep, hsaid, hblank, hfailure⟩
    have hevents := (Step.oneLine_events_iff (ledgerAfter {} (steps.take place)) step).1
      fun e he => h e (mem_eventsOf.2 ⟨place, step, hstep, he⟩)
    exact hevents text now error hsaid hblank (by rw [failure_ledgerAfter, hfailure])
  · intro h e he
    obtain ⟨place, step, hstep, he⟩ := mem_eventsOf.1 he
    refine (Step.oneLine_events_iff _ step).2 (fun text now error hsaid hblank hfailure => ?_) e he
    rw [failure_ledgerAfter] at hfailure
    exact h error ⟨place, step, text, now, hstep, hsaid, hblank, hfailure⟩

end Agenda.Service

namespace Agenda.CommandBar
open Agenda.Calendar Agenda.Command Agenda.Log

/-- The command bar never breaks a line, whatever the present and the words are. -/
theorem oneLine_events (clock : Instant) (now : Option String) (command : String) :
    ∀ e ∈ (interpretTyped clock now command).2, OneLine e.message := by
  by_cases hnow : Legible now
  · obtain ⟨instant, hevents⟩ := events_of_legible hnow clock command
    rw [hevents, List.forall_mem_singleton]
    exact oneLine_interpretEvent command _
  · rw [events_of_illegible hnow, List.forall_mem_singleton]
    decide

end Agenda.CommandBar

namespace Agenda.Activity
open Agenda.Calendar Agenda.Command Agenda.CommandBar Agenda.Log Agenda.Service

/--
CORRECT: all messages of a run are one line iff the details of every error that refuses words are;
so it is for a single command over every gateway. The command bar never breaks a line, and a crash
only if the place in the code does, whatever its payload is.
-/
theorem one_line_iff_details_are {σ : Type} (steps : List Service.Step) (g : Gateway σ) (state : σ)
    (command : String) (now : Instant) (typedAt : Option String) (isFinal : Bool)
    (location : String) (payload : Session.Payload) :
    ((∀ e ∈ eventsOf {} steps, OneLine e.message) ↔
      ∀ error, Refuses steps error → OneLine error.details) ∧
    ((∀ e ∈ (handleCommand g command now state).events, OneLine e.message) ↔
      ∀ error, (handleCommand g command now state).result = .error (.gateway error) →
        OneLine error.details) ∧
    (∀ e ∈ (interpretTyped now typedAt command).2, OneLine e.message) ∧
    (∀ e ∈ (interpretSpoken now typedAt ⟨command, isFinal⟩).2, OneLine e.message) ∧
    (OneLine (Session.crashEvent location payload).message ↔ OneLine location) := by
  refine ⟨oneLine_eventsOf_iff steps, oneLine_handleCommand_iff g command now state,
    oneLine_events now typedAt command, ?_, oneLine_crashEvent_iff location payload⟩
  cases isFinal with
  | true => exact oneLine_events now typedAt command
  | false => exact List.forall_mem_nil _

/-- Details with a line feed break a message, and its second line tells of an entry that is none. -/
theorem details_forge_a_line : ∃ (now : Instant) (details told : String) (e forged : Event),
    details = "down\nINFO [timeflow_core::service::command_service] " ++
      "event=command_handle module=service status=ok " ++
      "entry_id=00000000-0000-0000-0000-000000000001" ∧
    e ∈ eventsOf {} [.fail (.unavailable details), .command "Gym" now] ∧ ¬ OneLine e.message ∧
    e.message = told ++ "\nINFO [timeflow_core::service::command_service] " ++ forged.message ∧
    handleEvent? (.ok (.scheduled ⟨1⟩ (.ofCommand "Gym" now.date TimeMention.defaultStart))) =
      some forged := by
  let now : Instant :=
    { date := { year := 2024, month := 1, day := 1 }
      time := { hour := 8, minute := 0 }
      second := 0 }
  let forged : Event :=
    ⟨.info, Service.origin, "event=command_handle module=service status=ok " ++
      "entry_id=00000000-0000-0000-0000-000000000001"⟩
  let told : String := "event=command_handle module=service status=error stage=submit " ++
    "error=schedule store unavailable: down"
  let line : String := "INFO [timeflow_core::service::command_service] " ++ forged.message
  let e : Event := ⟨.warn, Service.origin, told ++ "\n" ++ line⟩
  refine ⟨now, _, told, e, forged, rfl, by decide +kernel, fun hline => ?_, by decide +kernel,
    by decide +kernel⟩
  have hbreak : OneLine "\n" := (oneLine_append.1 (oneLine_append.1 hline).1).2
  exact absurd hbreak (by decide)

end Agenda.Activity
