import Agenda.CommandBar
import Agenda.Proofs.CommandLine.Arguments
import Agenda.Proofs.Draft.RoundTrip
import Agenda.Proofs.Service.Runs

/-!
The command bar, the service and the command line, side by side. Given the same words and the same
present they are about the same draft: the texts that the bar shows are the strings that the command
line prints as JSON and the strings under the keys of the service's draft, and the three have the
same line for the user. CORRECT is for all words, all presents and every gateway that takes the
draft.

      words     bar                     service          command line
      others    six texts, message      scheduled        six strings, exit code 0
      blank     no text, message        notUnderstood    message as error, exit code 3

      a present that is no instant: no text and a message; exit code 2
-/

namespace Agenda.CommandBar
open Agenda.Calendar Agenda.Command Agenda.CommandLine Agenda.Draft Agenda.Json Agenda.Service
open Agenda.Text

/-- The text of a member in what the bar shows. -/
def DraftTexts.textOf (texts : DraftTexts) : Field → String
  | .title => texts.title
  | .date => texts.date
  | .start => texts.start
  | .finish => texts.finish
  | .color => texts.color
  | .note => texts.note

/-- The options ask for words at a present, without a log. -/
structure Asks (o : Options) (command : String) (now : Instant) : Prop where
  words : String.intercalate " " o.words = command
  now : o.now = some now
  logDir : o.logDir = none

/-- The three are about one draft; `json` tells whether the command line prints it as JSON. -/
structure SameDraft (d : Draft) (bar : Response) (service : Except CommandError Outcome)
    (printed : Result) (json : Bool) : Prop where
  ok : bar.ok = true
  texts : ∃ texts, bar.draft = some texts ∧ ∀ field : Field,
    d.toJson.get? field.key = some (.string (texts.textOf field))
  service : ∃ id, service = .ok (.scheduled id d) ∧
    bar.message = (Outcome.scheduled id d).feedback
  exitCode : printed.exitCode = 0
  output : json = true → Json.ofText printed.output = .ok d.toJson

/-- None of the three has a draft, and all have the same hint. -/
structure SameHint (bar : Response) (service : Except CommandError Outcome) (printed : Result) :
    Prop where
  ok : bar.ok = false
  draft : bar.draft = none
  message : bar.message = retryHint
  service : service = .ok .notUnderstood ∧ Outcome.notUnderstood.feedback = bar.message
  exitCode : printed.exitCode = 3
  output : printed.output = ""
  errors : printed.errors = retryHint ++ "\n"

/-- What the bar and the command line say about a present that is no instant. -/
structure SameRefusal (now : String) (error : TextError) (bar : Response) (printed : Result) :
    Prop where
  ok : bar.ok = false
  draft : bar.draft = none
  message : bar.message =
    "interpret_command failed: invalid now_local `" ++ trimmed now ++ "`: " ++ error.message
  refused : printed = (Stop.usage (.badNow now error)).result
  exitCode : printed.exitCode = 2
  output : printed.output = ""

/-! ### The present -/

/-- The bar reads a present that is not blank as the command line does. -/
theorem resolveNow_of_not_blank {now : String} (h : isBlankText now = false) (clock : Instant) :
    resolveNow clock (some now) =
      (Instant.ofText now).mapError fun error =>
        "interpret_command failed: invalid now_local `" ++ trimmed now ++ "`: " ++ error.message := by
  simp only [resolveNow, h, Bool.false_eq_true, if_false]
  rfl

/-- Where the present is an instant, the bar shows the draft of the words or the hint. -/
theorem interpretTyped_of_instant {now : String} {instant : Instant}
    (hblank : isBlankText now = false) (h : Instant.ofText now = .ok instant) (clock : Instant)
    (command : String) :
    (interpretTyped clock (some now) command).1 =
      match interpret command instant with
      | some i => .ofDraft i.draft
      | none => .failure retryHint := by
  have hresolve := resolveNow_of_not_blank hblank clock
  rw [h] at hresolve
  rw [interpretTyped, hresolve]
  rfl

/-- Where it is none, the bar shows no draft, whatever the words are. -/
theorem interpretTyped_of_error {now : String} {error : TextError}
    (hblank : isBlankText now = false) (h : Instant.ofText now = .error error) (clock : Instant)
    (command : String) :
    (interpretTyped clock (some now) command).1 =
      .failure ("interpret_command failed: invalid now_local `" ++ trimmed now ++ "`: " ++
        error.message) := by
  have hresolve := resolveNow_of_not_blank hblank clock
  rw [h] at hresolve
  simp only [interpretTyped, hresolve, mapError_error]

/-! ### The command line -/

/-- A line that asks for words at a present, without a log, prints their draft or the hint. -/
theorem run_of_asks {arguments : List String} {e : Environment} {o : Options} {command : String}
    {instant : Instant} (h : Options.ofArguments arguments e = .ok o)
    (hasks : Asks o command instant) (storage : Log.Storage) (clock : Instant) :
    ∃ log, run arguments e storage clock =
      match interpret command instant with
      | some i => { exitCode := 0, output := render i.draft o.json ++ "\n", errors := "", log }
      | none => { exitCode := 3, output := "", errors := retryHint ++ "\n", log } := by
  have hlog : o.startLog storage = .ok {} := by rw [Options.startLog, hasks.logDir]
  have hnow : o.now.getD clock = instant := by rw [hasks.now, Option.getD_some]
  simp only [run, h, hlog, Options.run, hasks.words, hnow]
  cases interpret command instant with
  | none => exact ⟨_, rfl⟩
  | some i => exact ⟨_, rfl⟩

/-- Such a line can be written for all words. -/
theorem asks_lineWith (json : Bool) {now : String} {instant : Instant}
    (h : Instant.ofText now = .ok instant) {words : List String} (hwords : words ≠ [])
    {e : Environment} (hlog : e.logDir = none) :
    ∃ o, Options.ofArguments (lineWith json now words) e = .ok o ∧ o.json = json ∧
      Asks o (String.intercalate " " words) instant :=
  ⟨_, ofArguments_lineWith json h hwords e, rfl, rfl, rfl, hlog⟩

/-! ### Side by side -/

variable {σ : Type}

/-- Words that are not blank: one draft for all. -/
theorem sameDraft_of_not_blank {g : Gateway σ} {state : σ}
    (hg : ∀ d, ∃ id state', g.submit d state = (.ok id, state')) {now command : String}
    {instant : Instant} (hnow : isBlankText now = false) (h : Instant.ofText now = .ok instant)
    (hcommand : isBlankText command = false) {arguments : List String} {e : Environment}
    {o : Options} (harguments : Options.ofArguments arguments e = .ok o)
    (hasks : Asks o command instant) (storage : Log.Storage) (clock clock' : Instant) :
    ∃ d, draft? command instant = some d ∧
      SameDraft d (interpretTyped clock (some now) command).1
        (handleCommand g command instant state).result (run arguments e storage clock') o.json := by
  obtain ⟨d, hd, hsubmit⟩ := handleCommand_of_not_blank g hcommand instant state
  obtain ⟨i, hi, rfl⟩ := Option.map_eq_some_iff.1 hd
  obtain ⟨id, state', hid⟩ := hg i.draft
  obtain ⟨-, hservice⟩ := hsubmit _ _ hid
  obtain ⟨log, hprinted⟩ := run_of_asks harguments hasks storage clock'
  have hbar := interpretTyped_of_instant hnow h clock command
  rw [hi] at hbar hprinted
  rw [hbar, hprinted, hservice]
  refine ⟨i.draft, hd, rfl, ⟨_, rfl, ?_⟩, ⟨id, rfl, rfl⟩, rfl, ?_⟩
  · intro field
    rw [get?_toJson]
    cases field <;> rfl
  · intro hjson
    have hgap : "\n".toList.all isSpace = true := rfl
    have hread := ofText_pretty_toJson i.draft hgap
    rw [hjson]
    exact hread

/-- Blank words: the same hint from all. -/
theorem sameHint_of_blank (g : Gateway σ) (state : σ) {now command : String} {instant : Instant}
    (hnow : isBlankText now = false) (h : Instant.ofText now = .ok instant)
    (hcommand : isBlankText command = true) {arguments : List String} {e : Environment}
    {o : Options} (harguments : Options.ofArguments arguments e = .ok o)
    (hasks : Asks o command instant) (storage : Log.Storage) (clock clock' : Instant) :
    SameHint (interpretTyped clock (some now) command).1
      (handleCommand g command instant state).result (run arguments e storage clock') := by
  have hi : interpret command instant = none := by rw [interpret, if_pos hcommand]
  obtain ⟨log, hprinted⟩ := run_of_asks harguments hasks storage clock'
  have hbar := interpretTyped_of_instant hnow h clock command
  rw [hi] at hbar hprinted
  rw [hbar, hprinted, (handleCommand_of_blank g hcommand instant state).1]
  exact ⟨rfl, rfl, rfl, ⟨rfl, rfl⟩, rfl, rfl, rfl⟩

/-- A present that is no instant: a refusal from both that read it. -/
theorem sameRefusal_of_error {now : String} {error : TextError} (hnow : isBlankText now = false)
    (h : Instant.ofText now = .error error) (command : String) {arguments : List String}
    {e : Environment}
    (harguments : Options.ofArguments arguments e = .error (.usage (.badNow now error)))
    (storage : Log.Storage) (clock clock' : Instant) :
    SameRefusal now error (interpretTyped clock (some now) command).1
      (run arguments e storage clock') := by
  have hprinted : run arguments e storage clock' = (Stop.usage (.badNow now error)).result := by
    rw [run, harguments]
  rw [interpretTyped_of_error hnow h clock command, hprinted]
  exact ⟨rfl, rfl, rfl, rfl, rfl, rfl⟩

/--
CORRECT: the bar, typed or spoken, the service over a gateway that takes every draft, and the
command line agree on all words and all presents; and there is a command line for them.
-/
theorem adapters_agree (g : Gateway σ) (state : σ)
    (hg : ∀ d, ∃ id state', g.submit d state = (.ok id, state')) {now : String}
    (hnow : isBlankText now = false) (command : String) (clock clock' : Instant)
    (storage : Log.Storage) :
    interpretSpoken clock (some now) ⟨command, true⟩ = interpretTyped clock (some now) command ∧
    (∀ instant, Instant.ofText now = .ok instant →
      (∀ arguments e o, Options.ofArguments arguments e = .ok o → Asks o command instant →
        (isBlankText command = false → ∃ d, draft? command instant = some d ∧
          SameDraft d (interpretTyped clock (some now) command).1
            (handleCommand g command instant state).result
            (run arguments e storage clock') o.json) ∧
        (isBlankText command = true →
          SameHint (interpretTyped clock (some now) command).1
            (handleCommand g command instant state).result (run arguments e storage clock'))) ∧
      (∀ json words e, words ≠ [] → String.intercalate " " words = command → e.logDir = none →
        ∃ o, Options.ofArguments (lineWith json now words) e = .ok o ∧ o.json = json ∧
          Asks o command instant)) ∧
    (∀ error, Instant.ofText now = .error error → ∀ before e, LeavesNowOpen before →
      (∀ after, SameRefusal now error (interpretTyped clock (some now) command).1
        (run (before ++ ("--now=" ++ now) :: after) e storage clock')) ∧
      (Argument.ofText now = .plain now →
        SameRefusal now error (interpretTyped clock (some now) command).1
          (run (before ++ ["--now", now]) e storage clock'))) := by
  refine ⟨rfl, ?_, ?_⟩
  · intro instant h
    refine ⟨?_, ?_⟩
    · intro arguments e o harguments hasks
      refine ⟨?_, ?_⟩
      · intro hcommand
        exact sameDraft_of_not_blank hg hnow h hcommand harguments hasks storage clock clock'
      · intro hcommand
        exact sameHint_of_blank g state hnow h hcommand harguments hasks storage clock clock'
    · rintro json words e hwords rfl hlog
      exact asks_lineWith json h hwords hlog
  · intro error h before e hbefore
    refine ⟨?_, ?_⟩
    · intro after
      exact sameRefusal_of_error hnow h command (ofArguments_attachedNow hbefore h after e) storage
        clock clock'
    · intro hplain
      exact sameRefusal_of_error hnow h command (ofArguments_lastNow hbefore hplain h e) storage
        clock clock'

/-- A command on the first morning of a year, over an empty ledger. -/
theorem adapters_agree_meeting :
    (∀ d, ∃ id ledger, Ledger.gateway.submit d {} = (.ok id, ledger)) ∧
    isBlankText "2024-01-01T08:00:00" = false ∧
    ∃ instant d, Instant.ofText "2024-01-01T08:00:00" = .ok instant ∧
      draft? "Meeting tomorrow at 3pm" instant = some d ∧
      SameDraft d
        (interpretTyped instant (some "2024-01-01T08:00:00") "Meeting tomorrow at 3pm").1
        (handleCommand Ledger.gateway "Meeting tomorrow at 3pm" instant {}).result
        (run (lineWith true "2024-01-01T08:00:00" ["Meeting tomorrow at 3pm"]) {}
          Log.Storage.plain instant) true := by
  have hg : ∀ d, ∃ id ledger, Ledger.gateway.submit d {} = (.ok id, ledger) :=
    fun d => ⟨_, _, rfl⟩
  have hnow : isBlankText "2024-01-01T08:00:00" = false := by decide
  let instant : Instant :=
    { date := { year := 2024, month := 1, day := 1 }
      time := { hour := 8, minute := 0 }
      second := 0 }
  have hinstant : Instant.ofText "2024-01-01T08:00:00" = .ok instant := by decide
  obtain ⟨-, hagree, -⟩ :=
    adapters_agree Ledger.gateway {} hg hnow "Meeting tomorrow at 3pm" instant instant
      Log.Storage.plain
  obtain ⟨hboth, hline⟩ := hagree instant hinstant
  obtain ⟨o, harguments, hjson, hasks⟩ :=
    hline true ["Meeting tomorrow at 3pm"] {} (List.cons_ne_nil _ _) rfl rfl
  obtain ⟨d, hd, hsame⟩ := (hboth _ {} o harguments hasks).1 (by decide)
  rw [hjson] at hsame
  exact ⟨hg, hnow, instant, d, hinstant, hd, hsame⟩

end Agenda.CommandBar
