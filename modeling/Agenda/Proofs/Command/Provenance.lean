import Agenda.Command.Interpretation
import Agenda.Proofs.Command.DateWords
import Agenda.Proofs.Command.Removal
import Agenda.Proofs.Text.Spacing

/-!
Where the characters of a title come from. Every pass keeps some characters of a command, so each
character of the title has a place in the command, and the places increase. The passes run once, one
after the other, and what they take out brings together what stood around it: a title may still name
a day. CORRECT: every day word in it was brought together after the pass that looks for such words
had begun; no stretch that stood side by side then names a day.

    command          joined by        title
    tomtodayorrow    day words        tomorrow
    sunmondayday     weekday names    sunday
    next at week     blanks           next week
-/

namespace Agenda.Command.Title
open Agenda.Calendar Agenda.Text

/-- The characters of a text with their places. -/
def placed (text : List Char) : List (Char × Nat) := text.zipIdx

/-- The characters without their places. -/
def letters (ps : List (Char × Nat)) : List Char := ps.map Prod.fst

/-- What a command is without its mention of a time. -/
def placedRest (text : List Char) : List (Char × Nat) :=
  match TimeMention.find text with
  | some m => (placed text).take m.before.length ++
      (placed text).drop (m.before.length + m.matched.length)
  | none => placed text

/-- What the pass over words keeps. -/
def keptBy (words : List (List Char)) (ps : List (Char × Nat)) : List (Char × Nat) :=
  select (keeps words 0 ((letters ps).map fold)) ps

/-- What the three passes keep. -/
def placedStrip (ps : List (Char × Nat)) : List (Char × Nat) :=
  let ps := keptBy weekdayNames (keptBy dayWords ps)
  select (keepsPrepositions 0 false (letters ps)) ps

/-- What is kept when runs of blanks are brought down to one blank, and none is left at the ends. -/
def placedSqueeze (ps : List (Char × Nat)) : List (Char × Nat) :=
  let ps := ps.dropWhile fun p => isBlank p.1
  select (keepsBlanks (letters ps)) ps

/-- The characters of the title that a command leaves, with their places in the command. -/
def trace (text : List Char) : List (Char × Nat) :=
  (placedSqueeze (placedStrip (placedRest text))).map fun p => (asSpace p.1, p.2)

/-! ### The trace is the title -/

theorem letters_select (marks : List Bool) (ps : List (Char × Nat)) :
    letters (select marks ps) = select marks (letters ps) := map_select Prod.fst marks ps

theorem letters_placed (text : List Char) : letters (placed text) = text :=
  List.zipIdx_map_fst 0 text

theorem letters_placedRest (text : List Char) : letters (placedRest text) =
    match TimeMention.find text with
    | some m => m.rest
    | none => text := by
  unfold placedRest
  cases hm : TimeMention.find text with
  | none => exact letters_placed text
  | some m =>
    have hparts := TimeMention.parts_of_scan hm
    have hletters := letters_placed text
    simp only [letters] at hletters ⊢
    rw [List.map_append, List.map_take, List.map_drop, hletters, TimeMention.rest, ← hparts]
    congr 1
    · rw [List.append_assoc, List.take_left]
    · rw [← List.length_append, List.drop_left]

theorem letters_keptBy (words : List (List Char)) (ps : List (Char × Nat)) :
    letters (keptBy words ps) = dropWords words 0 (letters ps) := by
  rw [keptBy, letters_select, dropWords_eq_select]

theorem letters_placedStrip (ps : List (Char × Nat)) :
    letters (placedStrip ps) = strip (letters ps) := by
  simp only [placedStrip, strip, letters_select, dropPrepositions_eq_select, letters_keptBy]

theorem letters_placedSqueeze (ps : List (Char × Nat)) :
    (letters (placedSqueeze ps)).map asSpace = unwords (words (letters ps)) := by
  have hskip : letters (ps.dropWhile fun p => isBlank p.1) = skipBlanks (letters ps) := by
    simp only [letters, skipBlanks, List.dropWhile_map]
    rfl
  simp only [placedSqueeze, letters_select, hskip, unwords_words, squeeze_eq_select]

/-- The characters of the trace are what is left of a command. -/
theorem letters_trace (text : List Char) :
    letters (trace text) = unwords (words (strip (letters (placedRest text)))) := by
  rw [← letters_placedStrip, ← letters_placedSqueeze]
  simp [trace, letters]

/-- The title is the trace, or the default title if that is empty. -/
theorem title_of_draft? {command : String} {now : Instant} {draft : Draft}
    (h : draft? command now = some draft) :
    draft.title = if trace command.toList = [] then fallback
      else String.ofList (letters (trace command.toList)) := by
  obtain ⟨i, hi, rfl⟩ := Option.map_eq_some_iff.1 h
  unfold interpret at hi
  split at hi
  · cases hi
  · cases hi
    have htitle : (interpretText command.toList now).draft.title =
        ofRest (letters (placedRest command.toList)) := by
      rw [letters_placedRest]
      rfl
    rw [htitle, ofRest, ← letters_trace]
    cases ht : trace command.toList with
    | nil => rfl
    | cons p ps => rfl

/-! ### Places -/

theorem placedRest_sublist (text : List Char) : (placedRest text).Sublist (placed text) := by
  unfold placedRest
  split
  · rename_i m hm
    have hdrop : ((placed text).drop (m.before.length + m.matched.length)).Sublist
        ((placed text).drop m.before.length) := by
      rw [← List.drop_drop]
      exact List.drop_sublist _ _
    have happend := (List.Sublist.refl ((placed text).take m.before.length)).append hdrop
    rwa [List.take_append_drop] at happend
  · exact List.Sublist.refl _

theorem keptBy_sublist (words : List (List Char)) (ps : List (Char × Nat)) :
    (keptBy words ps).Sublist ps := select_sublist _ _

/-- The passes after those over words keep some of what these leave. -/
theorem placedSqueeze_placedStrip_sublist (ps : List (Char × Nat)) :
    (placedSqueeze (placedStrip ps)).Sublist (keptBy weekdayNames (keptBy dayWords ps)) :=
  (select_sublist _ _).trans ((List.dropWhile_sublist _).trans (select_sublist _ _))

/-- What all passes keep stands in the command. -/
theorem kept_sublist (text : List Char) :
    (placedSqueeze (placedStrip (placedRest text))).Sublist (placed text) :=
  (placedSqueeze_placedStrip_sublist _).trans <| (keptBy_sublist _ _).trans <|
    (keptBy_sublist _ _).trans (placedRest_sublist text)

theorem nodup_placed (text : List Char) : (placed text).Nodup := by
  refine List.Nodup.of_map Prod.snd ?_
  rw [placed, List.zipIdx_map_snd]
  exact List.nodup_range'

/-- The places of the trace increase. -/
theorem pairwise_trace (text : List Char) : ((trace text).map Prod.snd).Pairwise (· < ·) := by
  have hsnd : (trace text).map Prod.snd =
      (placedSqueeze (placedStrip (placedRest text))).map Prod.snd := by
    simp [trace, Function.comp_def]
  rw [hsnd]
  refine List.Pairwise.sublist ((kept_sublist text).map Prod.snd) ?_
  rw [placed, List.zipIdx_map_snd]
  exact List.pairwise_lt_range'

/-- A character of the trace is the one at its place, or a space for a blank there. -/
theorem getElem?_of_mem_trace {text : List Char} {p : Char × Nat} (h : p ∈ trace text) :
    ∃ c, text[p.2]? = some c ∧ p.1 = asSpace c := by
  obtain ⟨q, hq, rfl⟩ := List.mem_map.1 h
  have hmem := (kept_sublist text).subset hq
  exact ⟨q.1, List.mk_mem_zipIdx_iff_getElem?.1 hmem, rfl⟩

/-- A character of the trace that stands unchanged in the command was kept as it is. -/
theorem mem_kept_of_mem_trace {text : List Char} {p : Char × Nat} (h : p ∈ trace text)
    (hp : p ∈ placed text) : p ∈ placedSqueeze (placedStrip (placedRest text)) := by
  obtain ⟨q, hq, rfl⟩ := List.mem_map.1 h
  have hmem := List.mk_mem_zipIdx_iff_getElem?.1 ((kept_sublist text).subset hq)
  have hsame := List.mk_mem_zipIdx_iff_getElem?.1 hp
  rw [hmem, Option.some.injEq] at hsame
  rwa [← hsame]

/-! ### Words that stood side by side -/

/-- No word of a pass is read by a stretch that stood in front of the pass and is still there. -/
theorem reads_ne_of_infix {words : List (List Char)} {ps s : List (Char × Nat)} {word : List Char}
    (hnodup : ps.Nodup) (hs : s <:+: ps) (hkept : s ⊆ keptBy words ps) (hword : word ∈ words)
    (hne : word ≠ []) : (letters s).map fold ≠ word := by
  rintro rfl
  cases s with
  | nil => exact hne rfl
  | cons p s =>
    obtain ⟨front, back, rfl⟩ := hs
    have hplace : (front ++ p :: s ++ back)[front.length]? = some p := by simp
    obtain ⟨i, hmark, hp⟩ := mem_select_iff.1 (hkept List.mem_cons_self)
    -- the first character stands at one place only, and the word would begin there
    have hi : i = front.length := by
      have hlt := (List.getElem?_eq_some_iff.1 hp).1
      exact (List.getElem?_inj hlt hnodup).1 (hp.trans hplace.symm)
    subst hi
    refine not_prefix_of_keeps hmark _ hword ⟨(letters back).map fold, ?_⟩
    simp [letters]

theorem dayWords_ne_nil : ∀ word ∈ dayWords, word ≠ [] := by decide

theorem weekdayNames_ne_nil : ∀ word ∈ weekdayNames, word ≠ [] := by decide

/-- A stretch of the trace that stood in the command came through both passes over words. -/
theorem subset_of_infix_trace {text : List Char} {s ps : List (Char × Nat)}
    (hs : s <:+: trace text) (hps : s <:+: ps) (hsub : ps.Sublist (placed text)) :
    s ⊆ keptBy weekdayNames (keptBy dayWords (placedRest text)) := by
  intro p hp
  have hkept := mem_kept_of_mem_trace (hs.subset hp) (hsub.subset (hps.subset hp))
  exact (placedSqueeze_placedStrip_sublist _).subset hkept

/-- No weekday is named by a stretch that stood side by side after the day words were gone. -/
theorem reads_ne_weekdayName {text : List Char} {s : List (Char × Nat)} (hs : s <:+: trace text)
    (hside : s <:+: keptBy dayWords (placedRest text)) :
    ∀ word ∈ weekdayNames, (letters s).map fold ≠ word := by
  intro word hword
  have hdays := (keptBy_sublist dayWords _).trans (placedRest_sublist text)
  have hkept := subset_of_infix_trace hs hside hdays
  exact reads_ne_of_infix ((nodup_placed text).sublist hdays) hside hkept hword
    (weekdayNames_ne_nil word hword)

/-- What stood side by side in front of the passes and is in the title, still does after the first. -/
theorem infix_keptBy {text : List Char} {s : List (Char × Nat)} (hs : s <:+: trace text)
    (hside : s <:+: placedRest text) : s <:+: keptBy dayWords (placedRest text) := by
  have hrest := placedRest_sublist text
  have hkept := subset_of_infix_trace hs hside hrest
  refine infix_of_sublist (keptBy_sublist _ _) ((nodup_placed text).sublist hrest) hside ?_
  exact List.Subset.trans hkept (keptBy_sublist _ _).subset

/-- What stood side by side in the command and is in the title, still does without the time. -/
theorem infix_placedRest {text : List Char} {s : List (Char × Nat)} (hs : s <:+: trace text)
    (hside : s <:+: placed text) : s <:+: placedRest text := by
  have hkept := subset_of_infix_trace hs hside (List.Sublist.refl _)
  refine infix_of_sublist (placedRest_sublist text) (nodup_placed text) hside ?_
  exact List.Subset.trans hkept ((keptBy_sublist _ _).trans (keptBy_sublist _ _)).subset

/-- No day word is read by a stretch that stood side by side without the time. -/
theorem reads_ne_dateWord {text : List Char} {s : List (Char × Nat)} (hs : s <:+: trace text)
    (hside : s <:+: placedRest text) : ∀ word ∈ dateWords, (letters s).map fold ≠ word := by
  intro word hword
  have hrest := placedRest_sublist text
  have hkept := subset_of_infix_trace hs hside hrest
  rcases List.mem_append.1 hword with hday | hname
  · have hday := (List.mem_filter.1 hday).1
    refine reads_ne_of_infix ((nodup_placed text).sublist hrest) hside ?_ hday
      (dayWords_ne_nil word hday)
    exact List.Subset.trans hkept (keptBy_sublist _ _).subset
  · exact reads_ne_weekdayName hs (infix_keptBy hs hside) word hname

/-- A word that stands in placed characters is read by a stretch of them. -/
theorem exists_infix_of_standsIn {word : List Char} {ps : List (Char × Nat)}
    (h : standsIn word (letters ps) = true) :
    ∃ s, s <:+: ps ∧ (letters s).map fold = word := by
  obtain ⟨cs, hcs, hword⟩ := (standsIn_iff _ _).1 h
  obtain ⟨s, hs, rfl⟩ := List.infix_map_iff.1 hcs
  exact ⟨s, hs, hword⟩

/-- A text that names a day has a stretch that reads a date word. -/
theorem exists_infix_of_find_ne {ps : List (Char × Nat)} (h : Cue.find (letters ps) ≠ .today) :
    ∃ word ∈ dateWords, ∃ s, s <:+: ps ∧ (letters s).map fold = word := by
  by_contra hno
  refine h (find_eq_today_of_not_standsIn fun word hword => ?_)
  rw [Bool.eq_false_iff]
  exact fun hin => hno ⟨word, hword, exists_infix_of_standsIn hin⟩

/-! ### Days in titles -/

/-- A stretch that stood side by side without the time names no day. -/
theorem find_letters_eq_today {text : List Char} {s : List (Char × Nat)} (hs : s <:+: trace text)
    (hside : s <:+: placedRest text) : Cue.find (letters s) = .today := by
  by_contra hcue
  obtain ⟨word, hword, r, hr, hread⟩ := exists_infix_of_find_ne hcue
  exact reads_ne_dateWord (hr.trans hs) (hr.trans hside) word hword hread

/-- A stretch that stood side by side without the time and the day words names no weekday. -/
theorem find_letters_ne_weekday {text : List Char} {s : List (Char × Nat)} (hs : s <:+: trace text)
    (hside : s <:+: keptBy dayWords (placedRest text)) (day : Weekday) :
    Cue.find (letters s) ≠ .weekday day := by
  intro hcue
  have hmem := List.mem_of_getLast? ((find_eq_weekday_iff _ _).1 hcue)
  have hin := standsIn_of_occurs_lowercase (isAsciiWord_name day) (mem_weekdaysIn.1 hmem)
  obtain ⟨r, hr, hread⟩ := exists_infix_of_standsIn hin
  have hname : day.name.toList ∈ weekdayNames := List.mem_map_of_mem (mem_all day)
  exact reads_ne_weekdayName (hr.trans hs) (hr.trans hside) _ hname hread

/--
CORRECT: the title is the trace of the command, characters at increasing places and blanks as
spaces, or the default title. A stretch of it that stood side by side in the command, or does so
without the time, names no day, and one that does so without the day words names no weekday. So a
title that names a day reads a date word that a pass brought together, the pass for this word or a
later one.
-/
theorem names_day_only_if_joined {command : String} {now : Instant} {draft : Draft}
    (h : draft? command now = some draft) :
    (draft.title = if trace command.toList = [] then fallback
      else String.ofList (letters (trace command.toList))) ∧
    ((trace command.toList).map Prod.snd).Pairwise (· < ·) ∧
    (∀ p ∈ trace command.toList, ∃ c, command.toList[p.2]? = some c ∧ p.1 = asSpace c) ∧
    (∀ s, s <:+: trace command.toList →
      (s <:+: placed command.toList → s <:+: placedRest command.toList) ∧
      (s <:+: placedRest command.toList → ∀ d, resolve (letters s) d = (d, .today)) ∧
      (s <:+: keptBy dayWords (placedRest command.toList) →
        ∀ d day, (resolve (letters s) d).2 ≠ .weekday day)) ∧
    ((∀ d, resolve draft.title.toList d = (d, .today)) ∨
      ∃ word ∈ dateWords, ∃ s, s <:+: trace command.toList ∧ (letters s).map fold = word ∧
        ¬ s <:+: placedRest command.toList ∧
        (word ∈ weekdayNames → ¬ s <:+: keptBy dayWords (placedRest command.toList))) := by
  have htitle := title_of_draft? h
  refine ⟨htitle, pairwise_trace _, fun p hp => getElem?_of_mem_trace hp, ?_, ?_⟩
  · intro s hs
    refine ⟨infix_placedRest hs, ?_, ?_⟩
    · intro hside d
      rw [resolve, find_letters_eq_today hs hside]
      rfl
    · intro hside d day
      exact find_letters_ne_weekday hs hside day
  · by_cases hcue : Cue.find draft.title.toList = .today
    · refine Or.inl fun d => ?_
      rw [resolve, hcue]
      rfl
    · refine Or.inr ?_
      have hne : trace command.toList ≠ [] := by
        intro hnil
        rw [htitle, if_pos hnil] at hcue
        exact hcue (by decide)
      rw [htitle, if_neg hne, String.toList_ofList] at hcue
      obtain ⟨word, hword, s, hs, hread⟩ := exists_infix_of_find_ne hcue
      refine ⟨word, hword, s, hs, hread, ?_, ?_⟩
      · intro hside
        exact reads_ne_dateWord hs hside word hword hread
      · intro hname hside
        exact reads_ne_weekdayName hs hside word hname hread

/-- A title may name a day: `today` is taken out of the middle, and its pass is over. -/
theorem names_tomorrow :
    ∃ draft, draft? "tomtodayorrow"
        { date := { year := 2024, month := 1, day := 1 }, time := { hour := 8, minute := 0 },
          second := 0 } = some draft ∧
      draft.title = "tomorrow" ∧ ∀ d, resolve draft.title.toList d ≠ (d, .today) := by
  have hcue : Cue.find "tomorrow".toList = .tomorrow := by decide
  have htrace : letters (trace "tomtodayorrow".toList) = "tomorrow".toList := by decide
  obtain ⟨draft, hdraft⟩ : ∃ draft, draft? "tomtodayorrow"
      { date := { year := 2024, month := 1, day := 1 }, time := { hour := 8, minute := 0 },
        second := 0 } = some draft := ⟨_, rfl⟩
  have hne : trace "tomtodayorrow".toList ≠ [] := by
    intro hnil
    rw [hnil] at htrace
    cases htrace
  have htitle := title_of_draft? hdraft
  rw [if_neg hne, htrace, String.ofList_toList] at htitle
  refine ⟨draft, hdraft, htitle, fun d hd => ?_⟩
  rw [htitle, resolve, hcue] at hd
  have hsame : Cue.tomorrow = Cue.today := congrArg Prod.snd hd
  cases hsame

/-- Where nothing was joined the title names no day, though the command does. -/
theorem names_no_day_call :
    ∃ draft, draft? "Call Ann tomorrow at 5pm"
        { date := { year := 2024, month := 1, day := 1 }, time := { hour := 8, minute := 0 },
          second := 0 } = some draft ∧
      draft.title = "Call Ann" ∧ ∀ d, resolve draft.title.toList d = (d, .today) := by
  have htrace : trace "Call Ann tomorrow at 5pm".toList = placed "Call Ann".toList := by decide
  have hside : placed "Call Ann".toList <:+: placedRest "Call Ann tomorrow at 5pm".toList := by
    decide
  obtain ⟨draft, hdraft⟩ : ∃ draft, draft? "Call Ann tomorrow at 5pm"
      { date := { year := 2024, month := 1, day := 1 }, time := { hour := 8, minute := 0 },
        second := 0 } = some draft := ⟨_, rfl⟩
  obtain ⟨htitle, -, -, hstretch, -⟩ := names_day_only_if_joined hdraft
  rw [htrace] at htitle hstretch
  have hresolve := (hstretch _ (List.infix_refl _)).2.1 hside
  rw [if_neg (by decide), letters_placed, String.ofList_toList] at htitle
  rw [letters_placed] at hresolve
  refine ⟨draft, hdraft, htitle, ?_⟩
  rw [htitle]
  exact hresolve

end Agenda.Command.Title
