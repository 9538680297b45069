import Agenda.Proofs.CommandBar.Agreement
import Agenda.Proofs.Log.Configuration
import Mathlib.Data.List.Forall2

/-!
What the log may tell about words: whether there are any, the cue of the date without the weekday,
whether a time was found, and the number of characters. Nothing else of a text gets into an event,
be it through a title, a matched time, a draft that a gateway stores or an error that refuses one.
CORRECT is about two runs that differ in their texts only, where these agree in what the log may
tell: step by step the events are the same, and so is the log.

      text                   has to agree in
      blank                  being blank
      others                 label of the cue, a time or none, number of characters
      not final              nothing: no event
      with illegible present nothing: the same event for all
-/

namespace Agenda.Command
open Agenda.Calendar Agenda.Text

/-- Two texts agree in what the log may tell about them. -/
structure SameMetadata (text other : String) : Prop where
  blank : isBlankText text = isBlankText other
  label : isBlankText text = false →
    (Cue.find text.toList).label = (Cue.find other.toList).label
  time : isBlankText text = false →
    (TimeMention.find text.toList).isSome = (TimeMention.find other.toList).isSome
  length : isBlankText text = false → text.length = other.length

/-- The event of a command is the same for such texts, whatever the presents are. -/
theorem SameMetadata.interpretEvent_eq {text other : String} (h : SameMetadata text other)
    (now now' : Instant) :
    interpretEvent text (interpret text now) = interpretEvent other (interpret other now') := by
  unfold interpret
  rw [← h.blank]
  cases hblank : isBlankText text with
  | true => rfl
  | false =>
    have hlabel := h.label hblank
    have htime := h.time hblank
    have hlength := h.length hblank
    simp only [interpretEvent, interpretText, Bool.false_eq_true, if_false, Option.isSome_map,
      hlabel, htime, hlength]

end Agenda.Command

namespace Agenda.Service
open Agenda.Calendar Agenda.Command Agenda.Log Agenda.Text
variable {σ : Type}

/-- A gateway whose states look alike if they answer all drafts alike, now and later. -/
structure Gateway.Blind (g : Gateway σ) (Alike : σ → σ → Prop) : Prop where
  answer : ∀ {state other}, Alike state other → ∀ d d' : Draft,
    (g.submit d state).1 = (g.submit d' other).1
  state : ∀ {state other}, Alike state other → ∀ d d' : Draft,
    Alike (g.submit d state).2 (g.submit d' other).2

/-- Two ledgers number the next draft alike and refuse drafts alike. -/
structure Ledger.SameAnswers (ledger other : Ledger) : Prop where
  number : ledger.accepted.length = other.accepted.length
  failure : ledger.failure = other.failure

/-- Two steps are the same but for words, which agree in what the log may tell. -/
inductive Step.SameButWords : Step → Step → Prop
  | command {text other : String} (now now' : Instant) : SameMetadata text other →
      SameButWords (.command text now) (.command other now')
  | transcript {text other : String} (isFinal : Bool) (now now' : Instant) :
      (isFinal = true → SameMetadata text other) →
      SameButWords (.transcript ⟨text, isFinal⟩ now) (.transcript ⟨other, isFinal⟩ now')
  | fail (error : GatewayError) : SameButWords (.fail error) (.fail error)
  | recover : SameButWords .recover .recover

/-- The events of a step. -/
def Step.events (ledger : Ledger) (step : Step) : List Event :=
  ((step.reply? ledger).map (·.events)).getD []

theorem eventsOf_cons (ledger : Ledger) (step : Step) (steps : List Step) :
    eventsOf ledger (step :: steps) =
      step.events ledger ++ eventsOf (step.ledgerAfter ledger) steps := rfl

/-- The ledger does not look at the drafts that it numbers. -/
theorem Ledger.blind : Ledger.gateway.Blind Ledger.SameAnswers where
  answer := by
    intro ledger other h d d'
    cases hf : other.failure with
    | none => rw [submit_of_works (h.failure.trans hf), submit_of_works hf, h.number]
    | some error => rw [submit_of_failure (h.failure.trans hf), submit_of_failure hf]
  state := by
    intro ledger other h d d'
    cases hf : other.failure with
    | none =>
      rw [submit_of_works (h.failure.trans hf), submit_of_works hf]
      exact ⟨by simp [h.number], h.failure⟩
    | some error =>
      rw [submit_of_failure (h.failure.trans hf), submit_of_failure hf]
      exact h

/-- Over a blind gateway such words cause the same events and leave states that look alike. -/
theorem handleCommand_of_sameMetadata {g : Gateway σ} {Alike : σ → σ → Prop} (hg : g.Blind Alike)
    {text other : String} (h : SameMetadata text other) {state state' : σ}
    (hstate : Alike state state') (now now' : Instant) :
    (handleCommand g text now state).events = (handleCommand g other now' state').events ∧
    Alike (handleCommand g text now state).state (handleCommand g other now' state').state := by
  have hevents : ∀ (text : String) (now : Instant) (state : σ),
      (handleCommand g text now state).events =
        interpretEvent text (interpret text now) ::
          (handleEvent? (handleCommand g text now state).result).toList := fun _ _ _ => rfl
  rw [hevents, hevents, h.interpretEvent_eq now now']
  cases hblank : isBlankText text with
  | true =>
    obtain ⟨hresult, hafter⟩ := handleCommand_of_blank g hblank now state
    obtain ⟨hresult', hafter'⟩ := handleCommand_of_blank g (h.blank ▸ hblank) now' state'
    rw [hresult, hresult', hafter, hafter']
    exact ⟨rfl, hstate⟩
  | false =>
    obtain ⟨d, -, hsubmit⟩ := handleCommand_of_not_blank g hblank now state
    obtain ⟨d', -, hsubmit'⟩ := handleCommand_of_not_blank g (h.blank ▸ hblank) now' state'
    obtain ⟨hafter, hresult⟩ := hsubmit _ _ rfl
    obtain ⟨hafter', hresult'⟩ := hsubmit' _ _ rfl
    rw [hresult, hresult', hafter, hafter', ← hg.answer hstate d d']
    refine ⟨?_, hg.state hstate d d'⟩
    -- the event of a stored draft has its number but not the draft itself
    cases (g.submit d state).1 <;> rfl

/-- The step lemma: the same events, and ledgers that answer alike. -/
theorem Step.SameButWords.events_eq {step other : Step} (h : step.SameButWords other)
    {ledger ledger' : Ledger} (hledger : ledger.SameAnswers ledger') :
    step.events ledger = other.events ledger' ∧
    (step.ledgerAfter ledger).SameAnswers (other.ledgerAfter ledger') := by
  cases h with
  | command now now' hwords =>
    exact handleCommand_of_sameMetadata Ledger.blind hwords hledger now now'
  | transcript isFinal now now' hwords =>
    cases isFinal with
    | true => exact handleCommand_of_sameMetadata Ledger.blind (hwords rfl) hledger now now'
    | false => exact ⟨rfl, hledger⟩
  | fail error => exact ⟨rfl, hledger.number, rfl⟩
  | recover => exact ⟨rfl, hledger.number, rfl⟩

/-- The run lemma for the service. -/
theorem eventsOf_eq {steps others : List Step} (h : List.Forall₂ Step.SameButWords steps others)
    {ledger ledger' : Ledger} (hledger : ledger.SameAnswers ledger') :
    eventsOf ledger steps = eventsOf ledger' others := by
  induction h generalizing ledger ledger' with
  | nil => rfl
  | cons hstep _ ih =>
    obtain ⟨hevents, hafter⟩ := hstep.events_eq hledger
    rw [eventsOf_cons, eventsOf_cons, hevents, ih hafter]

end Agenda.Service

namespace Agenda.CommandBar
open Agenda.Calendar Agenda.Command Agenda.Log Agenda.Text

/-- A present can be read: there is no text for it, or a blank one, or that of an instant. -/
def Legible : Option String → Prop
  | none => True
  | some text => isBlankText text = false → ∃ instant, Instant.ofText text = .ok instant

/-- With a present that can be read, the only event is that of the words. -/
theorem events_of_legible {now : Option String} (h : Legible now) (clock : Instant)
    (command : String) :
    ∃ instant, (interpretTyped clock now command).2 =
      [interpretEvent command (interpret command instant)] := by
  have hresolve : ∃ instant, resolveNow clock now = .ok instant := by
    cases now with
    | none => exact ⟨clock, rfl⟩
    | some text =>
      cases hblank : isBlankText text with
      | true => exact ⟨clock, by rw [resolveNow, if_pos hblank]⟩
      | false =>
        obtain ⟨instant, hinstant⟩ := h hblank
        exact ⟨instant, by rw [resolveNow_of_not_blank hblank, hinstant]; rfl⟩
  obtain ⟨instant, hinstant⟩ := hresolve
  exact ⟨instant, by rw [interpretTyped, hinstant]⟩

/-- Without one, the only event is the same for all presents and all words. -/
theorem events_of_illegible {now : Option String} (h : ¬ Legible now) (clock : Instant)
    (command : String) : (interpretTyped clock now command).2 = [invalidNowEvent] := by
  cases now with
  | none => exact absurd trivial h
  | some text =>
    obtain ⟨hblank, hnone⟩ := Classical.not_imp.1 h
    cases hinstant : Instant.ofText text with
    | ok instant => exact absurd ⟨instant, hinstant⟩ hnone
    | error error =>
      rw [interpretTyped, resolveNow_of_not_blank hblank, hinstant]
      rfl

/-- Such words cause the same events if both presents can be read or none of them can. -/
theorem events_eq {now now' : Option String} (hnow : Legible now ↔ Legible now')
    {command other : String} (h : Legible now → SameMetadata command other)
    (clock clock' : Instant) :
    (interpretTyped clock now command).2 = (interpretTyped clock' now' other).2 := by
  by_cases hlegible : Legible now
  · obtain ⟨instant, hevents⟩ := events_of_legible hlegible clock command
    obtain ⟨instant', hevents'⟩ := events_of_legible (hnow.1 hlegible) clock' other
    rw [hevents, hevents', (h hlegible).interpretEvent_eq instant instant']
  · rw [events_of_illegible hlegible, events_of_illegible (mt hnow.2 hlegible)]

end Agenda.CommandBar

namespace Agenda.Activity
open Agenda.Calendar Agenda.Command Agenda.CommandBar Agenda.Log Agenda.Service

/-- Two steps are the same but for words, which agree in what the log may tell. -/
inductive Step.SameButWords : Step → Step → Prop
  | configure (level directory : String) :
      SameButWords (.configure level directory) (.configure level directory)
  | interpret {command other : String} (now now' : Instant) : SameMetadata command other →
      SameButWords (.interpret command now) (.interpret other now')
  | typed {command other : String} {now now' : Option String} : (Legible now ↔ Legible now') →
      (Legible now → SameMetadata command other) →
      SameButWords (.typed now command) (.typed now' other)
  | spoken {text other : String} {now now' : Option String} (isFinal : Bool) :
      (Legible now ↔ Legible now') →
      (isFinal = true → Legible now → SameMetadata text other) →
      SameButWords (.spoken now ⟨text, isFinal⟩) (.spoken now' ⟨other, isFinal⟩)
  | event (e : Event) : SameButWords (.event e) (.event e)
  | crash (location : String) (payload : Session.Payload) :
      SameButWords (.crash location payload) (.crash location payload)

/-- Two moments with such steps meet the same storage; their clocks do not matter. -/
structure Moment.SameButWords (m other : Moment) : Prop where
  storage : m.storage = other.storage
  step : m.step.SameButWords other.step

/-- The step lemma: the same events, whatever the clocks are. -/
theorem Step.SameButWords.events_eq {step other : Step} (h : step.SameButWords other)
    (clock clock' : Instant) : step.events clock = other.events clock' := by
  cases h with
  | configure level directory => rfl
  | interpret now now' hwords =>
    simp only [Step.events]
    rw [hwords.interpretEvent_eq now now']
  | typed hnow hwords => exact CommandBar.events_eq hnow hwords clock clock'
  | spoken isFinal hnow hwords =>
    cases isFinal with
    | true => exact CommandBar.events_eq hnow (hwords rfl) clock clock'
    | false => rfl
  | event e => rfl
  | crash location payload => rfl

/-- So a log is the same after either. -/
theorem Moment.SameButWords.logAfter_eq {m other : Moment} (h : m.SameButWords other)
    (s : Session) : m.logAfter s = other.logAfter s := by
  obtain ⟨storage, clock, step⟩ := m
  obtain ⟨storage', clock', step'⟩ := other
  obtain ⟨rfl, hstep⟩ : storage = storage' ∧ step.SameButWords step' := ⟨h.storage, h.step⟩
  have hevents := hstep.events_eq clock clock'
  cases hstep with
  | configure level directory => rfl
  | interpret _ _ _ | typed _ _ | spoken _ _ _ | event _ | crash _ _ =>
    exact congrArg s.recordAll hevents

/-- The run lemma for the log, from any log on. -/
theorem foldl_logAfter_eq {run other : List Moment}
    (h : List.Forall₂ Moment.SameButWords run other) (s : Session) :
    run.foldl Moment.logAfter s = other.foldl Moment.logAfter s := by
  induction h generalizing s with
  | nil => rfl
  | cons hm _ ih => rw [List.foldl_cons, List.foldl_cons, hm.logAfter_eq, ih]

/--
CORRECT: two runs that are the same but for their words have the same events, in the service over
ledgers that answer alike and in the command bar, moment by moment, and leave the same log. A
present that cannot be read causes one event, the same for all such presents and all words.
-/
theorem words_are_not_logged :
    (∀ steps others ledger ledger', List.Forall₂ Service.Step.SameButWords steps others →
      Ledger.SameAnswers ledger ledger' → eventsOf ledger steps = eventsOf ledger' others) ∧
    (∀ run other, List.Forall₂ Moment.SameButWords run other →
      run.map Moment.events = other.map Moment.events ∧ logOf run = logOf other) ∧
    ∀ now, ¬ Legible now → ∀ clock command,
      (interpretTyped clock now command).2 = [invalidNowEvent] ∧
      (interpretSpoken clock now ⟨command, true⟩).2 = [invalidNowEvent] := by
  refine ⟨?_, ?_, ?_⟩
  · intro steps others ledger ledger' h hledger
    exact eventsOf_eq h hledger
  · intro run other h
    refine ⟨?_, foldl_logAfter_eq h {}⟩
    rw [← List.forall₂_eq_eq_eq, List.forall₂_map_left_iff, List.forall₂_map_right_iff]
    exact h.imp fun m m' hm => hm.step.events_eq m.clock m'.clock
  · intro now hnow clock command
    exact ⟨events_of_illegible hnow clock command, events_of_illegible hnow clock command⟩

/-- A meeting and a visit to the dentist look alike in the log but not in the ledger. -/
theorem words_are_not_logged_meeting : ∃ (now : Instant) (steps others : List Service.Step)
    (run other : List Moment),
    steps = [.command "Meeting friday at 3pm" now, .transcript ⟨"Gym tomorrow", true⟩ now] ∧
    others = [.command "Dentist monday at 9am" now, .transcript ⟨"Tax tomorrow", true⟩ now] ∧
    (ledgerAfter {} steps).accepted ≠ (ledgerAfter {} others).accepted ∧
    eventsOf {} steps = eventsOf {} others ∧
    run = [⟨.plain, now, .configure "debug" "/var/log"⟩,
      ⟨.plain, now, .spoken none ⟨"Meeting friday at 3pm", true⟩⟩] ∧
    other = [⟨.plain, now, .configure "debug" "/var/log"⟩,
      ⟨.plain, now, .spoken none ⟨"Dentist monday at 9am", true⟩⟩] ∧
    (logOf run).recorded.length = 2 ∧ logOf run = logOf other ∧
    (interpretTyped now (some "soon") "Gym").2 = [invalidNowEvent] := by
  let now : Instant :=
    { date := { year := 2024, month := 2, day := 29 }
      time := { hour := 8, minute := 0 }
      second := 0 }
  have hmeeting : SameMetadata "Meeting friday at 3pm" "Dentist monday at 9am" :=
    ⟨by decide +kernel, fun _ => by decide +kernel, fun _ => by decide +kernel, fun _ => by decide⟩
  have hgym : SameMetadata "Gym tomorrow" "Tax tomorrow" :=
    ⟨by decide +kernel, fun _ => by decide +kernel, fun _ => by decide +kernel, fun _ => by decide⟩
  have hsoon : ¬ Legible (some "soon") := by
    intro h
    obtain ⟨instant, hinstant⟩ := h (by decide)
    have hnone : (Instant.ofText "soon").toOption = none := by decide +kernel
    rw [hinstant] at hnone
    cases hnone
  let steps : List Service.Step :=
    [.command "Meeting friday at 3pm" now, .transcript ⟨"Gym tomorrow", true⟩ now]
  let others : List Service.Step :=
    [.command "Dentist monday at 9am" now, .transcript ⟨"Tax tomorrow", true⟩ now]
  let run : List Moment :=
    [⟨.plain, now, .configure "debug" "/var/log"⟩,
      ⟨.plain, now, .spoken none ⟨"Meeting friday at 3pm", true⟩⟩]
  let other : List Moment :=
    [⟨.plain, now, .configure "debug" "/var/log"⟩,
      ⟨.plain, now, .spoken none ⟨"Dentist monday at 9am", true⟩⟩]
  have hsteps : List.Forall₂ Service.Step.SameButWords steps others :=
    .cons (.command now now hmeeting) (.cons (.transcript true now now fun _ => hgym) .nil)
  have hrun : List.Forall₂ Moment.SameButWords run other :=
    .cons ⟨rfl, .configure "debug" "/var/log"⟩
      (.cons ⟨rfl, .spoken true Iff.rfl fun _ _ => hmeeting⟩ .nil)
  obtain ⟨hservice, hbar, hpresent⟩ := words_are_not_logged
  exact ⟨now, steps, others, run, other, rfl, rfl, by decide +kernel,
    hservice steps others {} {} hsteps ⟨rfl, rfl⟩, rfl, rfl, by decide +kernel,
    (hbar run other hrun).2, (hpresent _ hsoon now "Gym").1⟩

end Agenda.Activity
