import Agenda.CommandLine.Options

/-!
Arguments one after the other. In front of a separator they are taken from left to right, so that a
line can be cut at any place; behind it every argument is a word. A present is read where it stands:
what comes before it must not have stopped the reading, and what comes behind it no longer counts if
it cannot be read.

      --now=VALUE      read as soon as it is taken
      --now VALUE      read when the next word, option or flag is taken, or at the end
-/

namespace Agenda.CommandLine
open Agenda.Calendar

namespace Progress

/-- An argument that is no separator is taken before the rest. -/
theorem takeAll_cons {text : String} {argument : Argument} (h : Argument.ofText text = argument)
    (hne : argument ≠ .separator) (p : Progress) (rest : List String) :
    p.takeAll (text :: rest) = p.take argument >>= fun p => p.takeAll rest := by
  subst h
  rw [takeAll]
  split
  · rename_i heq
    exact absurd heq hne
  · rfl

/-- A line is read up to any place in front of its separator, and then on from there. -/
theorem takeAll_append {before : List String}
    (h : ∀ text ∈ before, Argument.ofText text ≠ .separator) (p : Progress) (after : List String) :
    p.takeAll (before ++ after) = p.takeAll before >>= fun p => p.takeAll after := by
  induction before generalizing p with
  | nil => rfl
  | cons text before ih =>
    have hfirst := h text List.mem_cons_self
    have ih := ih fun text hmem => h text (List.mem_cons_of_mem _ hmem)
    rw [List.cons_append, takeAll_cons rfl hfirst, takeAll_cons rfl hfirst]
    cases p.take (Argument.ofText text) with
    | error stop => rfl
    | ok p' => exact ih p'

/-- Words are added in their order. -/
theorem foldlM_addWord (o : Options) (words : List String) :
    words.foldlM addWord { options := o } =
      .ok { options := { o with words := o.words ++ words } } := by
  induction words generalizing o with
  | nil =>
    rw [List.append_nil]
    rfl
  | cons word words ih =>
    have hword : addWord { options := o } word =
        .ok { options := { o with words := o.words ++ [word] } } := rfl
    rw [List.foldlM_cons, hword]
    refine (ih { o with words := o.words ++ [word] }).trans ?_
    rw [List.append_assoc]
    rfl

end Progress

/-! ### The present -/

/-- A value behind an equals sign is attached as it is. -/
theorem ofText_attachedNow (value : String) :
    Argument.ofText ("--now=" ++ value) = .long "now" (some value) := by
  have hchars : ("--now=" ++ value).toList = '-' :: '-' :: 'n' :: 'o' :: 'w' :: '=' :: value.toList :=
    String.toList_append
  rw [Argument.ofText, hchars]
  exact congrArg (fun text => Argument.long "now" (some text)) String.ofList_toList

theorem ofName?_now : Valued.ofName? "now" = some .now := by decide

/-- An attached present is set at once. -/
theorem Progress.take_attachedNow {p : Progress} {o : Options} (h : p.settle = .ok o)
    (value : String) :
    p.take (.long "now" (some value)) = (o.set value .now).map fun o => { options := o } := by
  simp only [Progress.take, ofName?_now, h, bind, Except.bind]
  cases o.set value .now with
  | error stop => rfl
  | ok o' => rfl

/-- Arguments behind which a present can be given: none of them stops the reading or gives one. -/
structure LeavesNowOpen (before : List String) : Prop where
  no_separator : ∀ text ∈ before, Argument.ofText text ≠ .separator
  settled : ∃ p o, Progress.takeAll {} before = .ok p ∧ p.settle = .ok o ∧ o.now = none

example : LeavesNowOpen ["--json", "Meeting", "tomorrow"] := ⟨by decide, _, _, rfl, rfl, rfl⟩

/-- A present is set once, if it can be read. -/
theorem Options.set_now {o : Options} (h : o.now = none) (value : String) :
    o.set value .now =
      match Instant.ofText value with
      | .ok instant => .ok { o with now := some instant }
      | .error error => .error (.usage (.badNow value error)) := by
  rw [Options.set, h]
  rfl

/-- A present that cannot be read ends the reading, whatever follows. -/
theorem ofArguments_attachedNow {before : List String} (h : LeavesNowOpen before) {value : String}
    {error : TextError} (hvalue : Instant.ofText value = .error error) (after : List String)
    (e : Environment) :
    Options.ofArguments (before ++ ("--now=" ++ value) :: after) e =
      .error (.usage (.badNow value error)) := by
  obtain ⟨p, o, htaken, hsettle, hnow⟩ := h.settled
  have hset : o.set value .now = .error (.usage (.badNow value error)) := by
    rw [Options.set_now hnow, hvalue]
  rw [Options.ofArguments, Progress.takeAll_append h.no_separator, htaken]
  simp only [bind, Except.bind]
  rw [Progress.takeAll_cons (ofText_attachedNow value) Argument.noConfusion,
    Progress.take_attachedNow hsettle, hset]
  rfl

/-- The same for a present that is an argument of its own at the end of the line. -/
theorem ofArguments_lastNow {before : List String} (h : LeavesNowOpen before) {value : String}
    {error : TextError} (hplain : Argument.ofText value = .plain value)
    (hvalue : Instant.ofText value = .error error) (e : Environment) :
    Options.ofArguments (before ++ ["--now", value]) e =
      .error (.usage (.badNow value error)) := by
  obtain ⟨p, o, htaken, hsettle, hnow⟩ := h.settled
  have hset : o.set value .now = .error (.usage (.badNow value error)) := by
    rw [Options.set_now hnow, hvalue]
  have hargument : Argument.ofText "--now" = .long "now" none := by decide
  have htake : p.take (.long "now" none) = .ok { options := o, pending := some (.now, none) } := by
    simp only [Progress.take, ofName?_now, hsettle, bind, Except.bind]
  rw [Options.ofArguments, Progress.takeAll_append h.no_separator, htaken]
  simp only [bind, Except.bind]
  rw [Progress.takeAll_cons hargument Argument.noConfusion, htake]
  simp only [bind, Except.bind]
  rw [Progress.takeAll_cons hplain Argument.noConfusion]
  simp only [Progress.take, Progress.takeAll, Progress.settle, hset, bind, Except.bind]

/-- A whole line: a present and then words behind the separator. -/
def lineWith (json : Bool) (now : String) (words : List String) : List String :=
  (if json then ["--json"] else []) ++ ("--now=" ++ now) :: "--" :: words

/-- A line with a present that can be read and with words gives both. -/
theorem ofArguments_lineWith (json : Bool) {now : String} {instant : Instant}
    (h : Instant.ofText now = .ok instant) {words : List String} (hwords : words ≠ [])
    (e : Environment) :
    Options.ofArguments (lineWith json now words) e =
      .ok { words, now := some instant, json, logDir := e.logDir, logLevel := e.logLevel } := by
  have hseparator : Argument.ofText "--" = .separator := by decide
  have hrest : Progress.takeAll { options := { json } } (("--now=" ++ now) :: "--" :: words) =
      .ok { options := { words, now := some instant, json } } := by
    have hset : ({ json } : Options).set now .now = .ok { json, now := some instant } := by
      rw [Options.set_now rfl, h]
    rw [Progress.takeAll_cons (ofText_attachedNow now) Argument.noConfusion,
      Progress.take_attachedNow rfl, hset]
    simp only [Except.map, bind, Except.bind, Progress.takeAll, hseparator,
      Progress.foldlM_addWord, List.nil_append]
  have hline : Progress.takeAll {} (lineWith json now words) =
      .ok { options := { words, now := some instant, json } } := by
    cases json with
    | false => exact hrest
    | true =>
      have hflag : Argument.ofText "--json" = .long "json" none := by decide
      have htake : Progress.take {} (.long "json" none) =
          .ok { options := { json := true } } := by rfl
      rw [lineWith, if_pos rfl, List.cons_append, List.nil_append,
        Progress.takeAll_cons hflag Argument.noConfusion, htake]
      exact hrest
  rw [Options.ofArguments, hline]
  simp only [bind, Except.bind, Progress.settle]
  rw [if_neg (by simpa using hwords)]
  rfl

end Agenda.CommandLine
