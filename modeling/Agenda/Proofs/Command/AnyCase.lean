import Agenda.Command.Interpretation
import Agenda.Proofs.Command.DateWords
import Agenda.Proofs.Text.AsciiCase

/-!
Commands in any ASCII letter case. Every pass over a command commutes with making its ASCII capitals
small: the cue is the same, the mention stands at the same bytes and is made small with the text,
and what a pass takes out of the title it takes out of the small title. CORRECT is about two
commands that differ in the case of ASCII letters alone: both are blank or both are read, and the
readings differ in the case of letters of the title and of the matched text at most.

    command   Lunch On FRIDAY 1:15 Pm      lunch on friday 1:15 pm
    title     Lunch                        lunch
    matched   1:15 Pm                      1:15 pm
    span      16..23                       16..23
-/

namespace Agenda.Command
open Agenda.Calendar Agenda.Text

/-! ### The cue -/

/-- A text in lower case; a capital sigma has either of its small letters, as its place asks. -/
def IsLowered (cs lower : List Char) : Prop :=
  ∃ parts, List.Forall₂ (fun c part => part = lowerChar c ∨ c = 'Σ' ∧ part = ['ς']) cs parts ∧
    lower = parts.flatten

/-- The two small sigmas taken for one. -/
def oneSigma (c : Char) : Char := if c = 'ς' then 'σ' else c

theorem map_oneSigma_of_isLowered {cs lower : List Char} (h : IsLowered cs lower) :
    lower.map oneSigma = (lowercase cs).map oneSigma := by
  obtain ⟨parts, hparts, rfl⟩ := h
  induction hparts with
  | nil => rfl
  | @cons c part cs parts hpart _ ih =>
    have hchar : part.map oneSigma = (lowerChar c).map oneSigma := by
      rcases hpart with rfl | ⟨rfl, rfl⟩
      · rfl
      · decide
    rw [List.flatten_cons, List.map_append, ih, hchar, lowercase_cons, List.map_append]

/-- A word without a sigma stands in a text iff it does with one sigma for both. -/
theorem infix_map_oneSigma {word : List Char} (hword : ∀ c ∈ word, c ≠ 'σ' ∧ c ≠ 'ς')
    (cs : List Char) : word <:+: cs.map oneSigma ↔ word <:+: cs := by
  rw [List.infix_map_iff]
  constructor
  · rintro ⟨s, hs, rfl⟩
    have hself : ∀ c ∈ s, oneSigma c = c := by
      intro c hc
      have hne := (hword _ (List.mem_map_of_mem hc)).1
      unfold oneSigma at hne ⊢
      split at hne
      · exact absurd rfl hne
      · rw [if_neg ‹_›]
    rwa [List.map_congr_left hself, List.map_id']
  · intro h
    refine ⟨word, h, ?_⟩
    have hself : ∀ c ∈ word, oneSigma c = c := fun c hc => if_neg (hword c hc).2
    rw [List.map_congr_left hself, List.map_id']

/-- Whichever small letter a capital sigma has, the cue is the same. -/
theorem ofLower_of_isLowered {cs lower : List Char} (h : IsLowered cs lower) :
    Cue.ofLower lower = Cue.find cs := by
  have hsigma : ∀ word ∈ dateWords, word.all (fun c => c != 'σ' && c != 'ς') = true := by decide
  have hocc : ∀ word ∈ dateWords, occurs word lower = occurs word (lowercase cs) := by
    intro word hword
    have hno : ∀ c ∈ word, c ≠ 'σ' ∧ c ≠ 'ς' := by
      simpa using hsigma word hword
    rw [Bool.eq_iff_iff, occurs_iff, occurs_iff, ← infix_map_oneSigma hno,
      map_oneSigma_of_isLowered h, infix_map_oneSigma hno]
  exact ofLower_congr hocc

theorem find_small (cs : List Char) : Cue.find (small cs) = Cue.find cs := by
  simp only [Cue.find, lowercase_small]

/-- The cue is the same in any letter case. -/
theorem find_of_sameLetters {cs ds : List Char} (h : SameLetters cs ds) :
    Cue.find cs = Cue.find ds := by
  rw [← find_small cs, sameLetters_iff.1 h, find_small]

/-! ### The mention -/

/-- Minutes are a colon and two digits, and nothing else is. -/
theorem takeMinutes_cons (c a b : Char) (cs : List Char) :
    takeMinutes (c :: a :: b :: cs) =
      if c = ':' ∧ a.isDigit = true ∧ b.isDigit = true then ([c, a, b], cs)
      else ([], c :: a :: b :: cs) := by
  unfold takeMinutes
  split
  · rename_i heq
    obtain ⟨rfl, rfl, rfl, rfl⟩ : c = ':' ∧ _ ∧ _ ∧ _ := by simpa using heq
    simp
  · rename_i hne
    rw [if_neg]
    rintro ⟨rfl, -⟩
    exact hne a b cs rfl

theorem takeMinutes_short {cs : List Char} (h : cs.length < 3) : takeMinutes cs = ([], cs) := by
  unfold takeMinutes
  split
  · simp at h
    omega
  · rfl

/-- The minutes at the front are the same, and the rest is made small. -/
theorem takeMinutes_small (cs : List Char) :
    takeMinutes (small cs) = ((takeMinutes cs).1, small (takeMinutes cs).2) := by
  by_cases h : cs.length < 3
  · rw [takeMinutes_short h, takeMinutes_short (by simpa using h)]
  · rcases cs with _ | ⟨c, _ | ⟨a, _ | ⟨b, cs⟩⟩⟩
    · simp at h
    · simp at h
    · simp at h
    · have hcolon : c.toLower = ':' ↔ c = ':' := by
        rw [← beq_iff_eq, beq_colon_toLower, beq_iff_eq]
      simp only [small_cons, takeMinutes_cons, isDigit_toLower, hcolon]
      split
      · rename_i hm
        obtain ⟨rfl, ha, hb⟩ := hm
        rw [toLower_of_digit ha, toLower_of_digit hb]
        rfl
      · rfl

/-- Minutes have no other case. -/
theorem small_takeMinutes (cs : List Char) :
    small (takeMinutes cs).1 = (takeMinutes cs).1 := by
  by_cases h : cs.length < 3
  · rw [takeMinutes_short h]
    rfl
  · rcases cs with _ | ⟨c, _ | ⟨a, _ | ⟨b, cs⟩⟩⟩
    · simp at h
    · simp at h
    · simp at h
    · rw [takeMinutes_cons]
      split
      · rename_i hm
        obtain ⟨rfl, ha, hb⟩ := hm
        simp only [small_cons, small_nil, toLower_of_digit ha, toLower_of_digit hb]
        rfl
      · rfl

theorem marker?_small (cs : List Char) : marker? (small cs) = marker? cs := by
  simp only [marker?, beginsWith_small, ← small_drop, endsWord_small]

/-- A candidate in small letters. -/
def Candidate.small (c : Candidate) : Candidate :=
  { c with matched := Text.small c.matched, after := Text.small c.after }

/-- The candidate of a text is made small with the text. -/
theorem Candidate.ofText_small (cs : List Char) :
    Candidate.ofText (Text.small cs) = (Candidate.ofText cs).small := by
  simp only [Candidate.ofText, Candidate.small, takeDigits_small, takeMinutes_small,
    takeWhile_small isBlank_toLower, dropWhile_small isBlank_toLower, marker?_small, small_append,
    ← small_take, ← small_drop, small_takeDigits, small_takeMinutes]

theorem Candidate.time?_small (c : Candidate) : c.small.time? = c.time? := rfl

/-- A mention in small letters. -/
def TimeMention.small (m : TimeMention) : TimeMention :=
  { m with
    before := Text.small m.before
    matched := Text.small m.matched
    after := Text.small m.after }

theorem TimeMention.span_small (m : TimeMention) : m.small.span = m.span := by
  simp only [TimeMention.span, TimeMention.small, byteLength_small]

theorem TimeMention.rest_small (m : TimeMention) : m.small.rest = Text.small m.rest := by
  simp only [TimeMention.rest, TimeMention.small, small_append]

theorem TimeMention.atFront?_small (cs : List Char) :
    atFront? (Text.small cs) = (atFront? cs).map TimeMention.small := by
  simp only [atFront?, Candidate.ofText_small, Candidate.time?_small, Option.map_map]
  rfl

theorem TimeMention.scan_small (skipping : Bool) (cs : List Char) :
    scan skipping (Text.small cs) = (scan skipping cs).map TimeMention.small := by
  have hpush : ∀ c, TimeMention.small ∘ push c = push c.toLower ∘ TimeMention.small :=
    fun c => rfl
  induction cs generalizing skipping with
  | nil => rfl
  | cons c cs ih =>
    have hfront := atFront?_small (c :: cs)
    rw [small_cons] at hfront ⊢
    rw [scan, scan, isDigit_toLower, beq_colon_toLower, hfront]
    split
    · cases atFront? (c :: cs) with
      | some m => rfl
      | none => simp only [Option.map_none, ih, Option.map_map, hpush]
    · simp only [ih, Option.map_map, hpush]

/-- The mention of a text is made small with the text. -/
theorem TimeMention.find_small (cs : List Char) :
    find (Text.small cs) = (find cs).map TimeMention.small :=
  scan_small false cs

/-! ### The title -/

namespace Title

theorem dropWords_small (words : List (List Char)) (skip : Nat) (cs : List Char) :
    dropWords words skip (small cs) = small (dropWords words skip cs) := by
  induction cs generalizing skip with
  | nil => cases skip <;> rfl
  | cons c cs ih =>
    rcases skip with _ | skip
    · rw [small_cons, dropWords, dropWords, ← small_cons]
      simp only [beginsWith_small]
      split
      · exact ih _
      · rw [ih, small_cons]
    · exact ih skip

theorem beginsWithPreposition_small (cs : List Char) :
    beginsWithPreposition (small cs) = beginsWithPreposition cs := by
  simp only [beginsWithPreposition, beginsWith_small, ← small_drop, endsWord_small]

theorem dropPrepositions_small (skip : Nat) (inWord : Bool) (cs : List Char) :
    dropPrepositions skip inWord (small cs) = small (dropPrepositions skip inWord cs) := by
  induction cs generalizing skip inWord with
  | nil => cases skip <;> rfl
  | cons c cs ih =>
    rcases skip with _ | skip
    · rw [small_cons, dropPrepositions, dropPrepositions, ← small_cons,
        beginsWithPreposition_small, isWordChar_toLower]
      split
      · exact ih 1 _
      · rw [ih, small_cons]
    · rw [small_cons, dropPrepositions, dropPrepositions, isWordChar_toLower]
      exact ih skip _

theorem strip_small (cs : List Char) : strip (small cs) = small (strip cs) := by
  simp only [strip, dropWords_small, dropPrepositions_small]

/-- What is left of the small text is the small title, or the default title for both. -/
theorem small_ofRest (rest : List Char) :
    small (ofRest (small rest)).toList = small (ofRest rest).toList := by
  unfold ofRest
  rw [strip_small, words_small, unwords_small]
  cases unwords (words (strip rest)) with
  | nil => rfl
  | cons c cs =>
    have hself := small_small (c :: cs)
    simp only [small_cons, String.toList_ofList] at hself ⊢
    exact hself

end Title

/-! ### The reading -/

/-- Two readings of commands that agree in all but the case of letters that are taken over. -/
structure SameReading (i j : Interpretation) : Prop where
  cue : i.cue = j.cue
  date : i.draft.date = j.draft.date
  start : i.draft.start = j.draft.start
  finish : i.draft.finish = j.draft.finish
  marks : i.draft.color = j.draft.color ∧ i.draft.note = j.draft.note
  title : SameLetters i.draft.title.toList j.draft.title.toList
  matched : Option.Rel (fun s t => SameLetters s.toList t.toList) i.matched j.matched

/-- Where a command mentions a time, as bytes from the first to the last. -/
def mentionSpan? (command : String) : Option (Nat × Nat) :=
  (TimeMention.find command.toList).map TimeMention.span

theorem isBlankText_of_sameLetters {command other : String}
    (h : SameLetters command.toList other.toList) : isBlankText command = isBlankText other := by
  rw [isBlankText, ← allBlank_small, sameLetters_iff.1 h, allBlank_small, isBlankText]

/-- The mentions of both commands are the same one in small letters. -/
theorem mention_of_sameLetters {cs ds : List Char} (h : SameLetters cs ds) :
    Option.Rel (fun m n => m.small = n.small) (TimeMention.find cs) (TimeMention.find ds) := by
  have hsmall := TimeMention.find_small cs
  rw [sameLetters_iff.1 h, TimeMention.find_small] at hsmall
  cases hc : TimeMention.find cs with
  | none =>
    rw [hc, Option.map_none, Option.map_eq_none_iff] at hsmall
    rw [hsmall]
    exact Option.Rel.none
  | some m =>
    rw [hc, Option.map_some] at hsmall
    obtain ⟨n, hn, hsame⟩ := Option.map_eq_some_iff.1 hsmall
    rw [hn]
    exact Option.Rel.some hsame.symm

theorem title_of_sameLetters {rest rest' : List Char} (h : small rest = small rest') :
    SameLetters (Title.ofRest rest).toList (Title.ofRest rest').toList := by
  rw [sameLetters_iff, ← Title.small_ofRest rest, h, Title.small_ofRest]

/-- Commands that are not blank are read alike. -/
theorem sameReading_interpretText {cs ds : List Char} (h : SameLetters cs ds) (now : Instant) :
    SameReading (interpretText cs now) (interpretText ds now) := by
  have hcue := find_of_sameLetters h
  have hmention := mention_of_sameLetters h
  unfold interpretText
  simp only [hcue]
  generalize TimeMention.find cs = first at hmention ⊢
  generalize TimeMention.find ds = second at hmention ⊢
  cases hmention with
  | none =>
    have htitle := title_of_sameLetters (sameLetters_iff.1 h)
    exact ⟨rfl, rfl, rfl, rfl, ⟨rfl, rfl⟩, htitle, Option.Rel.none⟩
  | @some m n hsame =>
    have htime : m.time = n.time := show m.small.time = n.small.time by rw [hsame]
    have hrest : small m.rest = small n.rest := by
      rw [← TimeMention.rest_small, hsame, TimeMention.rest_small]
    have hmatched : SameLetters m.matched n.matched :=
      sameLetters_iff.2 (show m.small.matched = n.small.matched by rw [hsame])
    refine ⟨rfl, rfl, htime, congrArg TimeOfDay.plusOneHour htime, ⟨rfl, rfl⟩,
      title_of_sameLetters hrest, Option.Rel.some ?_⟩
    simpa only [String.toList_ofList] using hmatched

/-- Both mentions take the same bytes. -/
theorem span_of_sameLetters {cs ds : List Char} (h : SameLetters cs ds) :
    (TimeMention.find cs).map TimeMention.span = (TimeMention.find ds).map TimeMention.span := by
  have hmention := mention_of_sameLetters h
  generalize TimeMention.find cs = first at hmention ⊢
  generalize TimeMention.find ds = second at hmention ⊢
  cases hmention with
  | none => rfl
  | @some m n hsame =>
    rw [Option.map_some, Option.map_some, ← TimeMention.span_small, hsame, TimeMention.span_small]

/--
CORRECT: of two commands that differ in the case of ASCII letters alone both or none are blank, and
the readings have the cue, the date, the times and the bytes of the mention in common, and titles
and matched texts up to the case of ASCII letters. The cue is also that of every lower case of
either command, whichever small letter a capital sigma has in it.
-/
theorem interpret_any_case {command other : String}
    (h : SameLetters command.toList other.toList) (now : Instant) :
    Option.Rel SameReading (interpret command now) (interpret other now) ∧
      mentionSpan? command = mentionSpan? other ∧
      ∀ lower, IsLowered command.toList lower ∨ IsLowered other.toList lower →
        Cue.ofLower lower = Cue.find command.toList := by
  refine ⟨?_, span_of_sameLetters h, ?_⟩
  · unfold interpret
    rw [isBlankText_of_sameLetters h]
    split
    · exact Option.Rel.none
    · exact Option.Rel.some (sameReading_interpretText h now)
  · rintro lower (hlower | hlower)
    · exact ofLower_of_isLowered hlower
    · rw [ofLower_of_isLowered hlower, find_of_sameLetters h]

/-- Two spellings of a command, with an accent, a capital sigma and a marker in them. -/
theorem interpret_any_case_lunch :
    SameLetters "ΟΔΟΣ Lunch É On FRIDAY 1:15 Pm".toList "ΟΔΟΣ lunch É on friday 1:15 pM".toList ∧
    ∀ now, Option.Rel SameReading (interpret "ΟΔΟΣ Lunch É On FRIDAY 1:15 Pm" now)
      (interpret "ΟΔΟΣ lunch É on friday 1:15 pM" now) := by
  have h : SameLetters "ΟΔΟΣ Lunch É On FRIDAY 1:15 Pm".toList
      "ΟΔΟΣ lunch É on friday 1:15 pM".toList := sameLetters_iff.2 (by decide)
  exact ⟨h, fun now => (interpret_any_case h now).1⟩

end Agenda.Command
