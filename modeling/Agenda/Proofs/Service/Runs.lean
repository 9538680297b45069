import Agenda.Proofs.Command.Totality
import Agenda.Service.Run
import Mathlib.Data.List.Induction

/-!
Runs of the service over the ledger, told without the service. `Step.said?` is what a step gives to
the interpreter, `failureAfter` is the error of the last switch of the gateway, and `due` lists the
drafts of the words that were said while the gateway worked. CORRECT is again a pair: the ledger
holds exactly what is due, and every single step is answered as its words, the finality of its
transcript and the gateway at that time ask for.

      words     gateway    answer           stored
      blank     any        notUnderstood    nothing
      others    fails      gateway error    nothing
      others    works      scheduled        the draft of the words
      not final any        notFinal         nothing
-/

namespace Agenda.Service
open Agenda.Calendar Agenda.Command Agenda.Text Agenda.Log

/-- The words that a step gives to the interpreter: those of a command or a final transcript. -/
def Step.said? : Step → Option (String × Instant)
  | .command text now => some (text, now)
  | .transcript spoken now => if spoken.isFinal then some (spoken.text, now) else none
  | .fail _ => none
  | .recover => none

/-- How a step sets the gateway: to fail with an error, or to work again. -/
def Step.switch? : Step → Option (Option GatewayError)
  | .command _ _ => none
  | .transcript _ _ => none
  | .fail error => some (some error)
  | .recover => some none

/-- The error with which drafts are refused after a run: the last switch decides. -/
def failureAfter (steps : List Step) : Option GatewayError :=
  ((steps.filterMap Step.switch?).getLast?).getD none

/-- The draft that a step has to store: that of its words, unless drafts are refused. -/
def Step.adds (failure : Option GatewayError) (step : Step) : Option Draft :=
  match failure, step.said? with
  | none, some (text, now) => draft? text now
  | _, _ => none

/-- The draft that a run has to store at a place. -/
def due? (steps : List Step) (place : Nat) : Option Draft :=
  steps[place]?.bind (Step.adds (failureAfter (steps.take place)))

/-- The drafts that a run has to store, in order. -/
def due (steps : List Step) : List Draft := (List.range steps.length).filterMap (due? steps)

/-- How words are to be answered by the ledger as it is. -/
structure Answers (text : String) (now : Instant) (before : Ledger) (reply : Reply Ledger) :
    Prop where
  blank : isBlankText text = true →
    reply.result = .ok .notUnderstood ∧ reply.state.accepted = before.accepted
  refused : ∀ error, isBlankText text = false → before.failure = some error →
    reply.result = .error (.gateway error) ∧
    (CommandError.gateway error).cause? = some (.gateway error) ∧
    reply.state.accepted = before.accepted
  stored : isBlankText text = false → before.failure = none →
    ∃ draft id, draft? text now = some draft ∧
      (Ledger.gateway.submit draft before).1 = .ok id ∧
      reply.result = .ok (.scheduled id draft) ∧
      (Outcome.scheduled id draft).feedback =
        "Scheduled: " ++ draft.title ++ " at " ++ draft.start.text ∧
      reply.state.accepted = before.accepted ++ [draft]

/-! ### One step -/

variable {σ : Type}

/-- Blank words have no meaning, and the gateway is not asked. -/
theorem handleCommand_of_blank (g : Gateway σ) {text : String} (h : isBlankText text = true)
    (now : Instant) (state : σ) :
    (handleCommand g text now state).result = .ok .notUnderstood ∧
    (handleCommand g text now state).state = state := by
  simp [handleCommand, interpret, h]

/-- Words that are not blank stand for a draft, and the answer is the gateway's to that draft. -/
theorem handleCommand_of_not_blank (g : Gateway σ) {text : String} (h : isBlankText text = false)
    (now : Instant) (state : σ) :
    ∃ draft, draft? text now = some draft ∧
      ∀ answer state', g.submit draft state = (answer, state') →
        (handleCommand g text now state).state = state' ∧
        (handleCommand g text now state).result =
          match answer with
          | .ok id => .ok (.scheduled id draft)
          | .error error => .error (.gateway error) := by
  have hi : interpret text now = some (interpretText text.toList now) := by simp [interpret, h]
  have hvalid := fault?_of_interpret hi
  refine ⟨(interpretText text.toList now).draft, by simp [draft?, hi], ?_⟩
  intro answer state' hg
  simp only [handleCommand, hi, submit, hvalid, hg]
  cases answer <;> exact ⟨rfl, rfl⟩

/-- A final transcript is answered like a command with its text. -/
theorem reply?_of_said {step : Step} {text : String} {now : Instant}
    (h : step.said? = some (text, now)) (ledger : Ledger) :
    step.reply? ledger = some (handleCommand Ledger.gateway text now ledger) ∧
    step.ledgerAfter ledger = (handleCommand Ledger.gateway text now ledger).state := by
  cases step with
  | command text now =>
    cases h
    exact ⟨rfl, rfl⟩
  | transcript spoken now =>
    obtain ⟨hfinal, heq⟩ := Option.ite_none_right_eq_some.1 h
    cases heq
    simp [Step.reply?, Step.ledgerAfter, handleTranscript, hfinal]
  | fail error => cases h
  | recover => cases h

/-- A ledger told to fail refuses every draft with its error. -/
theorem submit_of_failure {ledger : Ledger} {error : GatewayError}
    (h : ledger.failure = some error) (draft : Draft) :
    Ledger.gateway.submit draft ledger = (.error error, ledger) := by
  simp only [Ledger.gateway, h]

/-- A ledger that works appends the draft and numbers it. -/
theorem submit_of_works {ledger : Ledger} (h : ledger.failure = none) (draft : Draft) :
    Ledger.gateway.submit draft ledger =
      (.ok ⟨BitVec.ofNat 128 (ledger.accepted.length + 1)⟩,
        { ledger with accepted := ledger.accepted ++ [draft] }) := by
  simp only [Ledger.gateway, h, List.length_append, List.length_singleton]

/-- Words are answered as they are to be. -/
theorem handleCommand_answers (text : String) (now : Instant) (ledger : Ledger) :
    Answers text now ledger (handleCommand Ledger.gateway text now ledger) where
  blank := by
    intro h
    obtain ⟨hr, hs⟩ := handleCommand_of_blank Ledger.gateway h now ledger
    exact ⟨hr, by rw [hs]⟩
  refused := by
    intro error h hf
    obtain ⟨draft, -, hg⟩ := handleCommand_of_not_blank Ledger.gateway h now ledger
    obtain ⟨hs, hr⟩ := hg _ _ (submit_of_failure hf draft)
    exact ⟨hr, rfl, by rw [hs]⟩
  stored := by
    intro h hf
    obtain ⟨draft, hd, hg⟩ := handleCommand_of_not_blank Ledger.gateway h now ledger
    have hsubmit := submit_of_works hf draft
    obtain ⟨hs, hr⟩ := hg _ _ hsubmit
    exact ⟨draft, _, hd, by rw [hsubmit], hr, rfl, by rw [hs]⟩

/-- A step without words leaves the accepted drafts as they are. -/
theorem accepted_of_not_said {step : Step} (h : step.said? = none) (ledger : Ledger) :
    (step.ledgerAfter ledger).accepted = ledger.accepted := by
  cases step with
  | command text now => cases h
  | transcript spoken now =>
    have hfinal : spoken.isFinal = false := by simpa [Step.said?] using h
    simp [Step.ledgerAfter, handleTranscript, hfinal]
  | fail error => rfl
  | recover => rfl

/-- Words never set the gateway. -/
theorem failure_handleCommand (text : String) (now : Instant) (ledger : Ledger) :
    (handleCommand Ledger.gateway text now ledger).state.failure = ledger.failure := by
  cases hb : isBlankText text with
  | true => rw [(handleCommand_of_blank Ledger.gateway hb now ledger).2]
  | false =>
    obtain ⟨draft, -, hg⟩ := handleCommand_of_not_blank Ledger.gateway hb now ledger
    cases hf : ledger.failure with
    | none => rw [(hg _ _ (submit_of_works hf draft)).1, hf]
    | some error => rw [(hg _ _ (submit_of_failure hf draft)).1, hf]

/-- The gateway is set by its switches only. -/
theorem failure_ledgerAfter_step (ledger : Ledger) (step : Step) :
    (step.ledgerAfter ledger).failure = step.switch?.getD ledger.failure := by
  cases step with
  | command text now => exact failure_handleCommand text now ledger
  | transcript spoken now =>
    simp only [Step.ledgerAfter, handleTranscript]
    split
    · exact failure_handleCommand spoken.text now ledger
    · rfl
  | fail error => rfl
  | recover => rfl

/-- The step lemma: a step stores what it has to. -/
theorem accepted_ledgerAfter_step (ledger : Ledger) (step : Step) :
    (step.ledgerAfter ledger).accepted =
      ledger.accepted ++ (step.adds ledger.failure).toList := by
  cases hsaid : step.said? with
  | none => simp [accepted_of_not_said hsaid, Step.adds, hsaid]
  | some words =>
    obtain ⟨text, now⟩ := words
    have hanswers := handleCommand_answers text now ledger
    rw [(reply?_of_said hsaid ledger).2]
    cases hb : isBlankText text with
    | true =>
      have hnone : draft? text now = none := by simp [draft?, interpret, hb]
      rw [(hanswers.blank hb).2]
      cases hf : ledger.failure <;> simp [Step.adds, hsaid, hnone]
    | false =>
      cases hf : ledger.failure with
      | some error =>
        rw [(hanswers.refused error hb hf).2.2]
        simp [Step.adds]
      | none =>
        obtain ⟨draft, id, hd, -, -, -, hstored⟩ := hanswers.stored hb hf
        rw [hstored]
        simp [Step.adds, hsaid, hd]

/-! ### A whole run -/

theorem ledgerAfter_concat (ledger : Ledger) (steps : List Step) (step : Step) :
    ledgerAfter ledger (steps ++ [step]) = step.ledgerAfter (ledgerAfter ledger steps) := by
  simp [ledgerAfter]

/-- Each step is answered by the ledger that the steps before it leave. -/
theorem getElem?_replies (ledger : Ledger) (steps : List Step) (place : Nat) :
    (replies ledger steps)[place]? =
      steps[place]?.map fun step => step.reply? (ledgerAfter ledger (steps.take place)) := by
  induction steps generalizing ledger place with
  | nil => simp [replies]
  | cons step steps ih =>
    cases place with
    | zero => simp [replies, ledgerAfter]
    | succ place =>
      rw [replies, List.getElem?_cons_succ, ih]
      rfl

/-- The run lemma for the gateway: the last switch decides. -/
theorem failure_ledgerAfter (steps : List Step) :
    (ledgerAfter {} steps).failure = failureAfter steps := by
  induction steps using List.reverseRecOn with
  | nil => rfl
  | append_singleton steps step ih =>
    rw [ledgerAfter_concat, failure_ledgerAfter_step, ih]
    cases h : step.switch? <;> simp [failureAfter, List.filterMap_append, h]

/-- What is due at a place depends on the steps up to it alone. -/
theorem due?_append (steps more : List Step) {place : Nat} (h : place < steps.length) :
    due? (steps ++ more) place = due? steps place := by
  unfold due?
  rw [List.getElem?_append_left h, List.take_append_of_le_length (Nat.le_of_lt h)]

/-- One more step adds at most one draft to those that are due. -/
theorem due_concat (steps : List Step) (step : Step) :
    due (steps ++ [step]) = due steps ++ (step.adds (failureAfter steps)).toList := by
  have hlast : due? (steps ++ [step]) steps.length = step.adds (failureAfter steps) := by
    simp [due?]
  have hrest : (List.range steps.length).filterMap (due? (steps ++ [step])) = due steps :=
    List.filterMap_congr fun place hplace => due?_append steps [step] (List.mem_range.1 hplace)
  rw [due, List.length_append, List.length_singleton, List.range_succ, List.filterMap_append,
    hrest, ← hlast]
  cases h : due? (steps ++ [step]) steps.length <;> simp [h]

/-- The run lemma for the drafts: the ledger holds what is due. -/
theorem accepted_ledgerAfter (steps : List Step) :
    (ledgerAfter {} steps).accepted = due steps := by
  induction steps using List.reverseRecOn with
  | nil => rfl
  | append_singleton steps step ih =>
    rw [ledgerAfter_concat, accepted_ledgerAfter_step, ih, failure_ledgerAfter, due_concat]

/--
CORRECT: after every run the ledger holds the drafts that are due, in order and each once. At every
place of the run words are answered as they are to be, typed or in a final transcript alike; a
transcript that is not final is refused without an event; and whatever is not due stores nothing.
-/
theorem run_stores_due_and_answers (steps : List Step) :
    (ledgerAfter {} steps).accepted = due steps ∧
    ∀ place step, steps[place]? = some step →
      (ledgerAfter {} (steps.take place)).failure = failureAfter (steps.take place) ∧
      (ledgerAfter {} (steps.take (place + 1))).accepted =
        (ledgerAfter {} (steps.take place)).accepted ++ (due? steps place).toList ∧
      (∀ text now, step.said? = some (text, now) →
        ∃ reply, (replies {} steps)[place]? = some (some reply) ∧
          reply = handleCommand Ledger.gateway text now (ledgerAfter {} (steps.take place)) ∧
          reply.state = ledgerAfter {} (steps.take (place + 1)) ∧
          Answers text now (ledgerAfter {} (steps.take place)) reply) ∧
      (∀ text now, step = .transcript ⟨text, false⟩ now →
        ∃ reply, (replies {} steps)[place]? = some (some reply) ∧
          reply.result = .error .notFinal ∧ reply.events = [] ∧
          reply.state = ledgerAfter {} (steps.take place)) ∧
      (∀ setting, step.switch? = some setting → (replies {} steps)[place]? = some none) := by
  refine ⟨accepted_ledgerAfter steps, ?_⟩
  intro place step hstep
  have hafter : ledgerAfter {} (steps.take (place + 1)) =
      step.ledgerAfter (ledgerAfter {} (steps.take place)) := by
    rw [List.take_add_one, hstep, Option.toList_some, ledgerAfter_concat]
  have hreply : (replies {} steps)[place]? =
      some (step.reply? (ledgerAfter {} (steps.take place))) := by
    rw [getElem?_replies, hstep, Option.map_some]
  have hfailure := failure_ledgerAfter (steps.take place)
  refine ⟨hfailure, ?_, ?_, ?_, ?_⟩
  · rw [hafter, accepted_ledgerAfter_step, hfailure, due?, hstep, Option.bind_some]
  · intro text now hsaid
    obtain ⟨hsame, hstate⟩ := reply?_of_said hsaid (ledgerAfter {} (steps.take place))
    refine ⟨_, by rw [hreply, hsame], rfl, by rw [hafter, hstate], ?_⟩
    exact handleCommand_answers text now (ledgerAfter {} (steps.take place))
  · rintro text now rfl
    exact ⟨_, by rw [hreply]; rfl, rfl, rfl, rfl⟩
  · intro setting hswitch
    rw [hreply]
    cases step with
    | command text now => cases hswitch
    | transcript spoken now => cases hswitch
    | fail error => rfl
    | recover => rfl

/-- Words that were refused are said again, in a final transcript, once the gateway works. -/
theorem run_stores_after_recovery : ∃ (steps : List Step) (now : Instant) (reply : Reply Ledger),
    steps = [.fail (.rejected "full"), .command "Walk at 5" now, .recover,
      .transcript ⟨"Walk at 5", true⟩ now] ∧
    (ledgerAfter {} steps).accepted = due steps ∧
    isBlankText "Walk at 5" = false ∧
    (ledgerAfter {} (steps.take 3)).failure = none ∧
    (replies {} steps)[3]? = some (some reply) ∧
    Answers "Walk at 5" now (ledgerAfter {} (steps.take 3)) reply := by
  let now : Instant :=
    { date := { year := 2024, month := 2, day := 29 }
      time := { hour := 8, minute := 0 }
      second := 0 }
  let steps : List Step := [.fail (.rejected "full"), .command "Walk at 5" now, .recover,
    .transcript ⟨"Walk at 5", true⟩ now]
  obtain ⟨haccepted, hplaces⟩ := run_stores_due_and_answers steps
  obtain ⟨hfailure, -, hsaid, -, -⟩ := hplaces 3 (.transcript ⟨"Walk at 5", true⟩ now) rfl
  obtain ⟨reply, hreply, -, -, hanswers⟩ := hsaid "Walk at 5" now rfl
  exact ⟨steps, now, reply, rfl, haccepted, by decide, hfailure, hreply, hanswers⟩

end Agenda.Service
