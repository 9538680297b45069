import Agenda.Log.Session
import Mathlib.Tactic.ByContra

/-!
What two texts ask a log to be, and how a configuration is answered. A level is named between
blanks, in any ASCII letter case, and `warning` is a second name of `warn`; a directory is spelled
between blanks and has to be absolute. CORRECT is an exact answer for both states of a log: accepted
iff the texts ask for a setup that can be started, or for the active one; else refused for the first
reason that applies, with nothing changed.

      asked                          log off            log on
      no level of that name          unknownLevel       unknownLevel
      blank directory                emptyDirectory     emptyDirectory
      no absolute directory          relativeDirectory  relativeDirectory
      other parts                    -                  otherDirectory
      other level                    -                  otherLevel
      storage has a fault            notStarted         -
      else                           started            accepted
-/

namespace Agenda.Log
open Agenda.Text

/-- The names of a level. -/
def Level.names : Level → List String
  | .warn => ["warn", "warning"]
  | level => [level.name]

/-- A text between blanks, in small ASCII letters. -/
def levelWord (text : String) : String := (trimmed text).map Char.toLower

/-- Two texts ask for a setup: the first has a name of its level, the second its directory. -/
structure Asks (level directory : String) (asked : Setup) : Prop where
  level : levelWord level ∈ asked.level.names
  directory : asked.directory.text = trimmed directory

/-- The first thing that is wrong with two texts that ask for no setup. -/
inductive Malformed (level directory : String) : SetupError → Prop
  | unknownLevel : (∀ known : Level, levelWord level ∉ known.names) →
      Malformed level directory (.unknownLevel (levelWord level))
  | emptyDirectory (known : Level) : levelWord level ∈ known.names → trimmed directory = "" →
      Malformed level directory .emptyDirectory
  | relativeDirectory (known : Level) : levelWord level ∈ known.names → trimmed directory ≠ "" →
      (trimmed directory).toList.head? ≠ some '/' →
      Malformed level directory (.relativeDirectory (trimmed directory))

/-- Why two texts are refused by a log with a setup: the first reason that applies. -/
inductive Refused (active : Setup) (level directory : String) : SetupError → Prop
  | malformed {e : SetupError} : Malformed level directory e → Refused active level directory e
  | otherDirectory (asked : Setup) : Asks level directory asked →
      asked.directory.parts ≠ active.directory.parts →
      Refused active level directory (.otherDirectory active.directory asked.directory)
  | otherLevel (asked : Setup) : Asks level directory asked →
      asked.directory.parts = active.directory.parts → asked.level ≠ active.level →
      Refused active level directory (.otherLevel active.level asked.level)

/-- Why two texts start no log: the first reason that applies. -/
inductive Unstarted (storage : Storage) (level directory : String) : SetupError → Prop
  | malformed {e : SetupError} : Malformed level directory e → Unstarted storage level directory e
  | notStarted (asked : Setup) (fault : StartFault) : Asks level directory asked →
      storage asked.directory = some fault →
      Unstarted storage level directory (.notStarted asked.directory fault)

/-- The log at its start: on, with the event that tells of it if its level keeps that. -/
def Session.started (s : Session) (asked : Setup) : Session :=
  { s with setup := some asked }.record (startEvent asked)

/-! ### Levels and directories -/

theorem Level.name_mem_names (level : Level) : level.name ∈ level.names := by
  cases level <;> decide

theorem Level.ofText_eq (text : String) :
    Level.ofText text =
      if levelWord text = "warning" then .ok .warn
      else
        match Level.all.find? fun level => level.name == levelWord text with
        | some level => .ok level
        | none => .error (.unknownLevel (levelWord text)) := rfl

/-- A text with a name of a level is read as this level. -/
theorem Level.ofText_of_mem_names {text : String} {level : Level}
    (h : levelWord text ∈ level.names) : Level.ofText text = .ok level := by
  rw [Level.ofText_eq]
  generalize levelWord text = name at h ⊢
  cases level with
  | warn =>
    rcases List.mem_cons.1 h with rfl | h
    · rfl
    · rw [List.mem_singleton.1 h]
      rfl
  | error | info | debug | trace =>
    rw [List.mem_singleton.1 h]
    rfl

/-- A text without a name of a level is refused as it was read. -/
theorem Level.ofText_of_not_mem_names {text : String}
    (h : ∀ known : Level, levelWord text ∉ known.names) :
    Level.ofText text = .error (.unknownLevel (levelWord text)) := by
  have hwarning : levelWord text ≠ "warning" := by
    intro hname
    exact h .warn (by rw [hname]; decide)
  have hfind : (Level.all.find? fun level => level.name == levelWord text) = none := by
    rw [List.find?_eq_none]
    intro level _ hname
    rw [beq_iff_eq] at hname
    exact h level (hname ▸ level.name_mem_names)
  rw [Level.ofText_eq, if_neg hwarning, hfind]

/-- A level is read from a text iff the text has one of its names. -/
theorem Level.ofText_eq_ok_iff (text : String) (level : Level) :
    Level.ofText text = .ok level ↔ levelWord text ∈ level.names := by
  constructor
  · intro h
    by_contra hlevel
    by_cases hknown : ∃ known : Level, levelWord text ∈ known.names
    · obtain ⟨known, hmem⟩ := hknown
      rw [Level.ofText_of_mem_names hmem] at h
      cases h
      exact hlevel hmem
    · rw [Level.ofText_of_not_mem_names (not_exists.1 hknown)] at h
      cases h
  · exact Level.ofText_of_mem_names

theorem Level.ofText_eq_error_iff (text : String) (e : SetupError) :
    Level.ofText text = .error e ↔
      (∀ known : Level, levelWord text ∉ known.names) ∧ e = .unknownLevel (levelWord text) := by
  constructor
  · intro h
    have hnone : ∀ known : Level, levelWord text ∉ known.names := by
      intro known hmem
      rw [Level.ofText_of_mem_names hmem] at h
      cases h
    rw [Level.ofText_of_not_mem_names hnone] at h
    cases h
    exact ⟨hnone, rfl⟩
  · rintro ⟨hnone, rfl⟩
    exact Level.ofText_of_not_mem_names hnone

/-- A directory is read from a text iff the text spells it between blanks. -/
theorem Directory.ofText_eq_ok_iff (text : String) (d : Directory) :
    Directory.ofText text = .ok d ↔ d.text = trimmed text := by
  obtain ⟨spelling, absolute⟩ := d
  unfold Directory.ofText Directory.ofText?
  simp only
  constructor
  · intro h
    split at h
    · cases h
    · split at h
      · rename_i d hd
        split at hd
        · cases hd
          cases h
          rfl
        · cases hd
      · cases h
  · rintro rfl
    have hne : trimmed text ≠ "" := by
      intro hempty
      rw [hempty] at absolute
      cases absolute
    rw [if_neg hne, dif_pos absolute]

/-- A blank text and a text without a slash in front are no directory. -/
theorem Directory.ofText_eq_error_iff (text : String) (e : SetupError) :
    Directory.ofText text = .error e ↔
      (trimmed text = "" ∧ e = .emptyDirectory) ∨
      (trimmed text ≠ "" ∧ (trimmed text).toList.head? ≠ some '/' ∧
        e = .relativeDirectory (trimmed text)) := by
  unfold Directory.ofText Directory.ofText?
  simp only
  by_cases hempty : trimmed text = ""
  · simp [hempty, eq_comm]
  · by_cases habsolute : (trimmed text).toList.head? = some '/'
    · simp [hempty, habsolute]
    · simp [hempty, habsolute, eq_comm]

/-! ### Setups -/

/-- Two texts give the setup that they ask for. -/
theorem Setup.ofTexts_eq_ok_iff (level directory : String) (asked : Setup) :
    Setup.ofTexts level directory = .ok asked ↔ Asks level directory asked := by
  constructor
  · intro h
    unfold Setup.ofTexts at h
    cases hlevel : Level.ofText level with
    | error e =>
      rw [hlevel] at h
      cases h
    | ok known =>
      cases hd : Directory.ofText directory with
      | error e =>
        rw [hlevel, hd] at h
        cases h
      | ok d =>
        rw [hlevel, hd] at h
        cases h
        exact ⟨(Level.ofText_eq_ok_iff _ _).1 hlevel, (Directory.ofText_eq_ok_iff _ _).1 hd⟩
  · rintro ⟨hlevel, hd⟩
    rw [← Level.ofText_eq_ok_iff] at hlevel
    rw [← Directory.ofText_eq_ok_iff] at hd
    rw [Setup.ofTexts, hlevel, hd]
    rfl

/-- Two texts that ask for none give the first thing that is wrong with them. -/
theorem Setup.ofTexts_eq_error_iff (level directory : String) (e : SetupError) :
    Setup.ofTexts level directory = .error e ↔ Malformed level directory e := by
  unfold Setup.ofTexts
  cases hlevel : Level.ofText level with
  | error refusal =>
    obtain ⟨hnone, rfl⟩ := (Level.ofText_eq_error_iff level refusal).1 hlevel
    constructor
    · intro h
      cases h
      exact .unknownLevel hnone
    · rintro (_ | ⟨known, hknown, -⟩ | ⟨known, hknown, -⟩)
      · rfl
      · exact absurd hknown (hnone known)
      · exact absurd hknown (hnone known)
  | ok known =>
    have hknown := (Level.ofText_eq_ok_iff level known).1 hlevel
    have hrest : Malformed level directory e ↔ Directory.ofText directory = .error e := by
      rw [Directory.ofText_eq_error_iff]
      constructor
      · rintro (hnone | ⟨_, -, hempty⟩ | ⟨_, -, hempty, hrelative⟩)
        · exact absurd hknown (hnone known)
        · exact Or.inl ⟨hempty, rfl⟩
        · exact Or.inr ⟨hempty, hrelative, rfl⟩
      · rintro (⟨hempty, rfl⟩ | ⟨hempty, hrelative, rfl⟩)
        · exact .emptyDirectory known hknown hempty
        · exact .relativeDirectory known hknown hempty hrelative
    rw [hrest]
    cases hd : Directory.ofText directory <;> simp [bind, Except.bind]

theorem Asks.level_eq {level directory : String} {asked : Setup} {known : Level}
    (h : Asks level directory asked) (hread : Level.ofText level = .ok known) :
    asked.level = known :=
  Except.ok.inj (((Level.ofText_eq_ok_iff _ _).2 h.level).symm.trans hread)

/-- Two texts ask for one setup at most. -/
theorem Asks.eq {level directory : String} {a b : Setup} (ha : Asks level directory a)
    (hb : Asks level directory b) : a = b := by
  rw [← Setup.ofTexts_eq_ok_iff] at ha hb
  exact Except.ok.inj (ha.symm.trans hb)

/-- Two texts ask for a setup, or something is wrong with them. -/
theorem asks_or_malformed (level directory : String) :
    (∃ asked, Asks level directory asked) ∨ ∃ e, Malformed level directory e := by
  cases h : Setup.ofTexts level directory with
  | ok asked => exact Or.inl ⟨asked, (Setup.ofTexts_eq_ok_iff _ _ _).1 h⟩
  | error e => exact Or.inr ⟨e, (Setup.ofTexts_eq_error_iff _ _ _).1 h⟩

theorem Asks.not_malformed {level directory : String} {asked : Setup} {e : SetupError}
    (h : Asks level directory asked) : ¬ Malformed level directory e := by
  rw [← Setup.ofTexts_eq_ok_iff] at h
  rw [← Setup.ofTexts_eq_error_iff, h]
  intro herror
  cases herror

/-- What holds of a setup that two texts ask for holds of the one that they ask for. -/
theorem Asks.exists_iff {level directory : String} {asked : Setup} (h : Asks level directory asked)
    (P : Setup → Prop) : (∃ other, Asks level directory other ∧ P other) ↔ P asked := by
  constructor
  · rintro ⟨other, hother, hp⟩
    rwa [h.eq hother]
  · intro hp
    exact ⟨asked, h, hp⟩

/-- There is one first thing that is wrong. -/
theorem Malformed.eq {level directory : String} {e e' : SetupError}
    (h : Malformed level directory e) (h' : Malformed level directory e') : e = e' := by
  rw [← Setup.ofTexts_eq_error_iff] at h h'
  exact Except.error.inj (h.symm.trans h')

namespace Session
variable {storage : Storage} {level directory : String} {s : Session}

/-! ### Events -/

/-- The events that a level keeps. -/
def kept (level : Level) (events : List Event) : List Event :=
  events.filter fun e => level.keeps e.level

@[simp] theorem kept_nil (level : Level) : kept level [] = [] := rfl

theorem kept_append (level : Level) (events more : List Event) :
    kept level (events ++ more) = kept level events ++ kept level more := List.filter_append _ _

theorem kept_cons (level : Level) (e : Event) (events : List Event) :
    kept level (e :: events) = kept level [e] ++ kept level events := kept_append level [e] events

theorem record_of_on {active : Setup} (hs : s.setup = some active) (e : Event) :
    s.record e = { s with recorded := s.recorded ++ kept active.level [e] } := by
  obtain ⟨setup, recorded⟩ := s
  obtain rfl : setup = some active := hs
  cases h : active.level.keeps e.level <;> simp [record, kept, h]

/-- A log that is on records the events that its level keeps, in order. -/
theorem recordAll_of_on {active : Setup} (hs : s.setup = some active) (events : List Event) :
    s.recordAll events = { s with recorded := s.recorded ++ kept active.level events } := by
  induction events generalizing s with
  | nil => simp [recordAll]
  | cons e events ih =>
    have hrest : (s.record e).recordAll events = s.recordAll (e :: events) := rfl
    have hnext : (s.record e).setup = some active := by rw [record_of_on hs, hs]
    rw [← hrest, ih hnext, record_of_on hs, kept_cons _ e events, List.append_assoc]

/-- A log that is off records nothing. -/
theorem recordAll_of_off (hs : s.setup = none) (events : List Event) :
    s.recordAll events = s := by
  induction events with
  | nil => rfl
  | cons e events ih =>
    have hsame : s.record e = s := by simp only [record, hs]
    have hrest : (s.record e).recordAll events = s.recordAll (e :: events) := rfl
    rw [← hrest, hsame, ih]

/-- Events never change the setup. -/
theorem setup_recordAll (s : Session) (events : List Event) :
    (s.recordAll events).setup = s.setup := by
  cases hs : s.setup with
  | none => rw [recordAll_of_off hs, hs]
  | some active => rw [recordAll_of_on hs, hs]

/-- The first event of a log is the one that tells of its start, if its level keeps that. -/
theorem started_eq (s : Session) (asked : Setup) :
    s.started asked =
      { setup := some asked, recorded := s.recorded ++ kept asked.level [startEvent asked] } :=
  record_of_on rfl _

/-! ### The answer to a configuration -/

/-- Texts with something wrong are refused for it in both states. -/
theorem configure_of_malformed {e : SetupError} (h : Malformed level directory e) :
    s.configure storage level directory = (.error e, s) := by
  rw [← Setup.ofTexts_eq_error_iff] at h
  rw [configure, h]

/-- A log that is on compares the setup that is asked for with its own. -/
theorem configure_of_on {active asked : Setup} (hs : s.setup = some active)
    (h : Asks level directory asked) :
    s.configure storage level directory = (compareSetups active asked, s) := by
  rw [← Setup.ofTexts_eq_ok_iff] at h
  simp only [configure, h, hs]

/-- A log that is off starts unless the storage has a fault. -/
theorem configure_of_off {asked : Setup} (hs : s.setup = none) (h : Asks level directory asked) :
    s.configure storage level directory =
      match storage asked.directory with
      | some fault => (.error (.notStarted asked.directory fault), s)
      | none => (.ok (), s.started asked) := by
  rw [← Setup.ofTexts_eq_ok_iff] at h
  simp only [configure, h, hs]
  rfl

/-- Setups agree iff their directories have the same parts and their levels are the same. -/
theorem compareSetups_eq_ok_iff (active asked : Setup) :
    compareSetups active asked = .ok () ↔
      asked.directory.parts = active.directory.parts ∧ asked.level = active.level := by
  unfold compareSetups Directory.same
  by_cases hd : asked.directory.parts = active.directory.parts
  · by_cases hl : asked.level = active.level
    · simp [hd, hl]
    · simp [hd, hl, Ne.symm hl]
  · simp [hd, Ne.symm hd]

/-- They disagree about the directory first and then about the level. -/
theorem compareSetups_eq_error_iff (active asked : Setup) (e : SetupError) :
    compareSetups active asked = .error e ↔
      (asked.directory.parts ≠ active.directory.parts ∧
        e = .otherDirectory active.directory asked.directory) ∨
      (asked.directory.parts = active.directory.parts ∧ asked.level ≠ active.level ∧
        e = .otherLevel active.level asked.level) := by
  unfold compareSetups Directory.same
  by_cases hd : asked.directory.parts = active.directory.parts
  · by_cases hl : asked.level = active.level
    · simp [hd, hl]
    · simp [hd, hl, Ne.symm hl, @eq_comm _ e]
  · simp [hd, Ne.symm hd, @eq_comm _ e]

/-- CORRECT: a log that is on accepts the texts for its own setup, up to the spelling. -/
theorem configure_on_eq_ok_iff {active : Setup} (hs : s.setup = some active) :
    (s.configure storage level directory).1 = .ok () ↔
      ∃ asked, Asks level directory asked ∧
        asked.directory.parts = active.directory.parts ∧ asked.level = active.level := by
  rcases asks_or_malformed level directory with ⟨asked, h⟩ | ⟨e, h⟩
  · rw [configure_of_on hs h, compareSetups_eq_ok_iff, h.exists_iff fun asked =>
      asked.directory.parts = active.directory.parts ∧ asked.level = active.level]
  · rw [configure_of_malformed h]
    constructor
    · intro hok
      cases hok
    · rintro ⟨asked, hasked, -⟩
      exact absurd h hasked.not_malformed

/-- CORRECT: it refuses all others for the first reason that applies. -/
theorem configure_on_eq_error_iff {active : Setup} (hs : s.setup = some active) (e : SetupError) :
    (s.configure storage level directory).1 = .error e ↔ Refused active level directory e := by
  rcases asks_or_malformed level directory with ⟨asked, h⟩ | ⟨first, h⟩
  · rw [configure_of_on hs h, compareSetups_eq_error_iff]
    constructor
    · rintro (⟨hd, rfl⟩ | ⟨hd, hl, rfl⟩)
      · exact .otherDirectory asked h hd
      · exact .otherLevel asked h hd hl
    · rintro (hwrong | ⟨other, hother, hd⟩ | ⟨other, hother, hd, hl⟩)
      · exact absurd hwrong h.not_malformed
      · rw [h.eq hother]
        exact Or.inl ⟨hd, rfl⟩
      · rw [h.eq hother]
        exact Or.inr ⟨hd, hl, rfl⟩
  · rw [configure_of_malformed h]
    constructor
    · rintro ⟨⟩
      exact .malformed h
    · rintro (hwrong | ⟨other, hother, -⟩ | ⟨other, hother, -, -⟩)
      · rw [h.eq hwrong]
      · exact absurd h hother.not_malformed
      · exact absurd h hother.not_malformed

/-- CORRECT: a log that is off accepts the texts for every setup that the storage can hold. -/
theorem configure_off_eq_ok_iff (hs : s.setup = none) :
    (s.configure storage level directory).1 = .ok () ↔
      ∃ asked, Asks level directory asked ∧ storage asked.directory = none := by
  rcases asks_or_malformed level directory with ⟨asked, h⟩ | ⟨e, h⟩
  · rw [configure_of_off hs h, h.exists_iff fun asked => storage asked.directory = none]
    cases storage asked.directory <;> simp
  · rw [configure_of_malformed h]
    constructor
    · intro hok
      cases hok
    · rintro ⟨asked, hasked, -⟩
      exact absurd h hasked.not_malformed

/-- CORRECT: it refuses all others for the first reason that applies. -/
theorem configure_off_eq_error_iff (hs : s.setup = none) (e : SetupError) :
    (s.configure storage level directory).1 = .error e ↔
      Unstarted storage level directory e := by
  rcases asks_or_malformed level directory with ⟨asked, h⟩ | ⟨first, h⟩
  · rw [configure_of_off hs h]
    constructor
    · intro herror
      cases hfault : storage asked.directory with
      | none => simp [hfault] at herror
      | some fault =>
        simp only [hfault, Except.error.injEq] at herror
        subst herror
        exact .notStarted asked fault h hfault
    · rintro (hwrong | ⟨other, fault, hother, hfault⟩)
      · exact absurd hwrong h.not_malformed
      · rw [h.eq hother, hfault]
  · rw [configure_of_malformed h]
    constructor
    · rintro ⟨⟩
      exact .malformed h
    · rintro (hwrong | ⟨other, fault, hother, -⟩)
      · rw [h.eq hwrong]
      · exact absurd h hother.not_malformed

/-- Nothing is changed but by a log that is off and accepts. -/
theorem configure_unchanged
    (h : s.setup ≠ none ∨ (s.configure storage level directory).1 ≠ .ok ()) :
    (s.configure storage level directory).2 = s := by
  rcases asks_or_malformed level directory with ⟨asked, hasked⟩ | ⟨e, he⟩
  · cases hs : s.setup with
    | some active => rw [configure_of_on hs hasked]
    | none =>
      rw [configure_of_off hs hasked] at h ⊢
      cases hfault : storage asked.directory with
      | none => simp [hs, hfault] at h
      | some fault => rfl
  · rw [configure_of_malformed he]

end Session

end Agenda.Log
