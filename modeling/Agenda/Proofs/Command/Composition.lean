import Agenda.Command.Interpretation
import Agenda.Proofs.Command.ClockText
import Agenda.Proofs.Command.CueText
import Agenda.Proofs.Command.Removal
import Agenda.Proofs.Text.Spacing

/-!
Putting a command together and interpreting it. A command is composed of a title, an optional `on`,
a cue word, `at` and a clock text, and each pass over it takes off its own piece: the mention ends
the text, the two kinds of date words go one after the other, the prepositions stand alone between
spaces. CORRECT: the parts come back, whatever title, cue, letter case, time and date.

    Meeting with Ann on TOMORROW at 3:30 p.m.
    title               cue         clock text
-/

namespace Agenda.Command
open Agenda.Calendar Agenda.Text Title

/-- A title that no pass takes anything from. -/
structure TitleText where
  chars : List Char
  ne_nil : chars ≠ []
  no_digit : ∀ c ∈ chars, c.isDigit = false
  head_visible : ∀ c ∈ chars.head?, isBlank c = false
  last_visible : ∀ c ∈ chars.getLast?, isBlank c = false
  blank_space : ∀ c ∈ chars, isBlank c = true → c = ' '
  single_spaces : ¬ [' ', ' '] <:+: chars
  no_word : ∀ word ∈ dayWords ++ weekdayNames, standsIn word chars = false
  no_preposition : hasPreposition false chars = false

theorem TitleText.chars_eq_cons (t : TitleText) :
    ∃ a as, t.chars = a :: as ∧ isBlank a = false := by
  cases ht : t.chars with
  | nil => exact absurd ht t.ne_nil
  | cons a as => exact ⟨a, as, rfl, t.head_visible a (by rw [ht]; rfl)⟩

/-- The preposition before a cue word, if it has one. -/
def opener (withOn : Bool) : List Char := if withOn then "on ".toList else []

/-- The preposition between a cue word and a clock text. -/
def closer : List Char := " at ".toList

/-- What stands between a title and a clock text. -/
def link (withOn : Bool) (c : CueText) : List Char := opener withOn ++ (c.chars ++ closer)

/-- What stands between a title and a clock text, in lower case. -/
def plainLink (withOn : Bool) (cue : Cue) : List Char := opener withOn ++ (cue.words ++ closer)

/-- The command of a title, a cue and a time. -/
def compose (t : TitleText) (withOn : Bool) (c : CueText) (time : ClockText) : String :=
  String.ofList (t.chars ++ ' ' :: link withOn c ++ time.chars)

theorem map_fold_link (withOn : Bool) (c : CueText) :
    (link withOn c).map fold = plainLink withOn c.cue := by
  have hopen : (opener withOn).map fold = opener withOn := by cases withOn <;> decide
  have hclose : closer.map fold = closer := by decide
  rw [link, plainLink, List.map_append, List.map_append, c.reads.1, hopen, hclose]

/-! ### The mention -/

theorem no_digit_front (t : TitleText) (withOn : Bool) (c : CueText) :
    ∀ d ∈ t.chars ++ ' ' :: link withOn c, d.isDigit = false := by
  have hopen : (opener withOn).any Char.isDigit = false := by cases withOn <;> decide
  have hclose : closer.any Char.isDigit = false := by decide
  intro d hd
  simp only [link, List.mem_append, List.mem_cons] at hd
  rcases hd with hd | rfl | hd | hd | hd
  · exact t.no_digit d hd
  · decide
  · exact Bool.eq_false_iff.2 (List.any_eq_false.1 hopen d hd)
  · exact c.no_digit d hd
  · exact Bool.eq_false_iff.2 (List.any_eq_false.1 hclose d hd)

/-- The clock text at the end is the mention. -/
theorem find_compose (t : TitleText) (withOn : Bool) (c : CueText) (time : ClockText) :
    TimeMention.find (t.chars ++ ' ' :: link withOn c ++ time.chars) =
      some { time := time.time, before := t.chars ++ ' ' :: link withOn c,
             matched := time.chars, after := [] } := by
  rw [find_append (no_digit_front t withOn c), find_chars]
  simp

/-! ### The title -/

/-- The marks of a pass that takes a cue word out of its link. -/
def linkMarks (withOn : Bool) (cue : Cue) : List Bool :=
  List.replicate (opener withOn).length true ++
    (List.replicate cue.words.length false ++ List.replicate closer.length true)

/-- A pass that knows the cue word takes it and leaves the prepositions around it. -/
theorem dropWords_link {words : List (List Char)} {withOn : Bool} {c : CueText}
    (h : keeps words 0 (plainLink withOn c.cue) = linkMarks withOn c.cue) :
    dropWords words 0 (link withOn c) = opener withOn ++ closer := by
  rw [dropWords_eq_select, map_fold_link, h, linkMarks, link, c.length_eq,
    select_append (List.length_replicate ..), select_append (List.length_replicate ..),
    select_replicate_true, select_replicate_true, select_replicate_false, List.nil_append]

/-- A pass that knows no word in a link leaves it. -/
theorem dropWords_link_self {words : List (List Char)} {withOn : Bool} {c : CueText}
    (h : keeps words 0 (plainLink withOn c.cue) =
      List.replicate (plainLink withOn c.cue).length true) :
    dropWords words 0 (link withOn c) = link withOn c := by
  have hlen : (plainLink withOn c.cue).length = (link withOn c).length := by
    rw [← map_fold_link, List.length_map]
  rw [dropWords_eq_select, map_fold_link, h, hlen, select_replicate_true]

/-- One of the two passes over words takes the cue word out of the link. -/
theorem dropWords_dropWords_link (withOn : Bool) (c : CueText) :
    dropWords weekdayNames 0 (dropWords dayWords 0 (link withOn c)) = opener withOn ++ closer := by
  have hmarks : ∀ withOn, ∀ cue ∈ Cue.all,
      keeps dayWords 0 (plainLink withOn cue) = linkMarks withOn cue ∨
      (keeps dayWords 0 (plainLink withOn cue) =
          List.replicate (plainLink withOn cue).length true ∧
        keeps weekdayNames 0 (plainLink withOn cue) = linkMarks withOn cue) := by decide
  rcases hmarks withOn c.cue c.cue.mem_all with hdays | ⟨hdays, hnames⟩
  · rw [dropWords_link hdays]
    cases withOn <;> decide
  · rw [dropWords_link_self hdays, dropWords_link hnames]

/-- No word goes on over the space behind the title. -/
theorem not_prefix_link {word front rest : List Char} (hword : word ∈ dayWords ++ weekdayNames)
    (heq : word = front ++ ' ' :: rest) (withOn : Bool) (c : CueText) :
    ¬ rest <+: plainLink withOn c.cue := by
  -- the only word with a space in it goes on with `week`
  have hweek : ∀ word ∈ dayWords ++ weekdayNames, ∀ rest ∈ word.tails,
      ' ' :: rest ∈ word.tails → rest = "week".toList := by decide
  have htail : ∀ s : List Char, s <:+ word → s ∈ word.tails := fun s hs => (List.mem_tails _ _).2 hs
  have hrest := hweek word hword rest (htail rest ⟨front ++ [' '], by simp [heq]⟩)
    (htail (' ' :: rest) ⟨front, heq.symm⟩)
  subst hrest
  have hlinks : ∀ withOn, ∀ cue ∈ Cue.all, ¬ "week".toList <+: plainLink withOn cue := by decide
  exact hlinks withOn c.cue c.cue.mem_all

/-- CORRECT: the passes take the link off a title and nothing else. -/
theorem ofRest_link (t : TitleText) (withOn : Bool) (c : CueText) :
    ofRest (t.chars ++ ' ' :: link withOn c) = String.ofList t.chars := by
  have hdays : dropWords dayWords 0 (t.chars ++ ' ' :: link withOn c) =
      t.chars ++ ' ' :: dropWords dayWords 0 (link withOn c) := by
    refine dropWords_append_space (fun word hword => t.no_word word ?_) ?_
    · exact List.mem_append_left _ hword
    · intro word hword front rest heq
      rw [map_fold_link]
      exact not_prefix_link (List.mem_append_left _ hword) heq withOn c
  have hnames : dropWords weekdayNames 0 (t.chars ++ ' ' :: dropWords dayWords 0 (link withOn c)) =
      t.chars ++ ' ' :: (opener withOn ++ closer) := by
    rw [← dropWords_dropWords_link withOn c]
    refine dropWords_append_space (fun word hword => t.no_word word ?_) ?_
    · exact List.mem_append_right _ hword
    · intro word hword front rest heq
      have hspace : ∀ word ∈ weekdayNames, ' ' ∉ word := by decide
      exact absurd (by simp [heq]) (hspace word hword)
  have hprep : dropPrepositions 0 false (t.chars ++ ' ' :: (opener withOn ++ closer)) =
      t.chars ++ ' ' :: dropPrepositions 0 false (opener withOn ++ closer) :=
    dropPrepositions_append_space t.no_preposition _
  have hblank : allBlank (' ' :: dropPrepositions 0 false (opener withOn ++ closer)) = true := by
    cases withOn <;> decide
  have hskip : ∀ bs, skipBlanks (t.chars ++ bs) = t.chars ++ bs := by
    intro bs
    obtain ⟨a, as, ht, ha⟩ := t.chars_eq_cons
    simp [skipBlanks, ht, ha]
  have htitle : unwords (words (strip (t.chars ++ ' ' :: link withOn c))) = t.chars := by
    rw [unwords_words, strip, hdays, hnames, hprep, hskip]
    exact squeeze_append t.blank_space t.single_spaces t.last_visible hblank
  unfold ofRest
  rw [htitle]
  split
  · rename_i h
    exact absurd h t.ne_nil
  · rfl

/-! ### The cue -/

/-- No date word reaches into the clock text. -/
theorem not_mem_map_fold_chars {word : List Char} (hword : word ∈ dateWords) {l : Char}
    (hl : word.getLast? = some l) (time : ClockText) : l ∉ time.chars.map fold := by
  have hlast : dateWords.all (fun word => word.getLast?.all (['y', 'w', 'k'].contains ·)) = true := by
    decide
  have hend := List.all_eq_true.1 hlast word hword
  rw [hl, Option.all_some, List.contains_iff_mem] at hend
  intro hmem
  obtain ⟨c, hc, rfl⟩ := List.mem_map.1 hmem
  exact fold_of_isClockChar (isClockChar_of_mem hc) hend

theorem mem_words_of_mem_dateWords {word : List Char} (h : word ∈ dateWords) :
    word ∈ dayWords ++ weekdayNames := by
  rcases List.mem_append.1 h with h | h
  · exact List.mem_append_left _ (List.mem_filter.1 h).1
  · exact List.mem_append_right _ h

/-- The only date word that stands in a link is the cue word. -/
theorem eq_words_of_infix_plainLink {word : List Char} (hword : word ∈ dateWords) {withOn : Bool}
    {cue : Cue} (h : word <:+: plainLink withOn cue) : word = cue.words := by
  have hall : ∀ withOn, ∀ cue ∈ Cue.all, ∀ word ∈ dateWords,
      occurs word (plainLink withOn cue) = true → word = cue.words := by decide
  exact hall withOn cue cue.mem_all word hword ((occurs_iff _ _).2 h)

/-- A date word stands in a composed command iff it is the cue word. -/
theorem occurs_compose (t : TitleText) (withOn : Bool) (c : CueText) (time : ClockText)
    {word : List Char} (hword : word ∈ dateWords) :
    occurs word (lowercase (t.chars ++ ' ' :: link withOn c ++ time.chars)) =
      decide (word = c.cue.words) := by
  have hascii := isAsciiWord_of_mem_dateWords word hword
  have hmem := mem_words_of_mem_dateWords hword
  rw [Bool.eq_iff_iff, decide_eq_true_iff]
  constructor
  · intro hocc
    have hin := standsIn_of_occurs_lowercase hascii hocc
    rw [standsIn_iff_map, List.map_append] at hin
    obtain ⟨l, hl⟩ : ∃ l, word.getLast? = some l := by
      cases hlast : word.getLast? with
      | some l => exact ⟨l, rfl⟩
      | none =>
        rw [List.getLast?_eq_none_iff.1 hlast] at hword
        exact absurd hword (by decide)
    have hfront := infix_of_getLast hl (not_mem_map_fold_chars hword hl time) hin
    rw [map_fold_append_space, map_fold_link] at hfront
    rcases infix_append_space hfront with hin | hin | ⟨front, rest, heq, hrest⟩
    · have hfalse := t.no_word word hmem
      rw [(standsIn_iff_map _ _).2 hin] at hfalse
      cases hfalse
    · exact eq_words_of_infix_plainLink hword hin
    · exact absurd hrest (not_prefix_link hmem heq withOn c)
  · rintro rfl
    refine (occurs_lowercase_iff hascii _).2 ⟨c.chars, ?_, c.reads⟩
    exact ⟨t.chars ++ ' ' :: opener withOn, closer ++ time.chars, by simp [link]⟩

/-! ### The parts come back -/

theorem isBlankText_compose (t : TitleText) (withOn : Bool) (c : CueText) (time : ClockText) :
    isBlankText (compose t withOn c time) = false := by
  obtain ⟨a, as, ht, ha⟩ := t.chars_eq_cons
  simp [isBlankText, compose, allBlank, ht, ha]

/--
CORRECT: a composed command is interpreted as its parts: the title as it is written, the date of the
cue, which is today, the day after, seven days on or the coming day of that name, the hour and the
minute that the clock text denotes, and this text as the mention.
-/
theorem interpret_compose (t : TitleText) (withOn : Bool) (c : CueText) (time : ClockText)
    (now : Instant) :
    ∃ i, interpret (compose t withOn c time) now = some i ∧
      i.draft.title = String.ofList t.chars ∧ i.cue = c.cue ∧
      i.draft.date = c.cue.date now.date ∧ resolve c.chars now.date = (i.draft.date, i.cue) ∧
      (i.draft.date =
        match c.cue with
        | .today => now.date
        | .tomorrow => now.date.later 1
        | .nextWeek => now.date.later 7
        | .weekday day => now.date.nextOn day) ∧
      i.draft.start.hour = time.denotedHour ∧ i.draft.start.minute = time.denotedMinute ∧
      i.matched = some (String.ofList time.chars) := by
  refine ⟨_, if_neg (Bool.eq_false_iff.1 (isBlankText_compose t withOn c time)), ?_⟩
  have hmention := find_compose t withOn c time
  have hcue := find_eq_of_occurs fun word hword => occurs_compose t withOn c time hword
  have htitle := ofRest_link t withOn c
  simp only [compose, String.toList_ofList, interpretText, hmention, hcue, TimeMention.rest,
    List.append_nil, htitle]
  refine ⟨rfl, trivial, rfl, resolve_cueText c now.date, ?_, rfl, rfl, rfl⟩
  cases c.cue <;> rfl

/-- A command with a preposition, capitals, minutes and a dotted marker. -/
theorem interpret_compose_meeting : ∃ t withOn c time,
    compose t withOn c time = "Meeting with Ann on TOMORROW at 3:30 p.m." ∧
    ∀ now, ∃ i, interpret "Meeting with Ann on TOMORROW at 3:30 p.m." now = some i ∧
      i.draft.title = "Meeting with Ann" ∧ i.cue = .tomorrow ∧
      i.draft.date = now.date.later 1 ∧ i.draft.start.hour = 15 ∧ i.draft.start.minute = 30 := by
  let t : TitleText :=
    { chars := "Meeting with Ann".toList
      ne_nil := by decide
      no_digit := List.all_iff_forall_prop.1 (by decide)
      head_visible := by rintro c hc; cases hc; decide
      last_visible := by rintro c hc; cases hc; decide
      blank_space := List.all_iff_forall_prop.1 (by decide)
      single_spaces := by decide
      no_word := by decide
      no_preposition := by decide }
  let c : CueText :=
    { chars := "TOMORROW".toList
      cue := .tomorrow
      chars_spell := by decide }
  let marker : Marker :=
    { blanks := [' ']
      letters := "p.m.".toList
      half := .pm
      blanks_isBlank := List.all_iff_forall_prop.1 (by decide)
      letters_spell := by decide }
  let time : ClockText :=
    { hour := ['3']
      minutes := some ('3', '0')
      marker := some marker
      hour_length := by decide
      hour_digits := List.all_iff_forall_prop.1 (by decide)
      minutes_digits := by rintro a b h; cases h; decide
      hour_range := by decide }
  refine ⟨t, true, c, time, by decide, fun now => ?_⟩
  obtain ⟨i, hi, htitle, hcue, hdate, -, -, hhour, hminute, -⟩ :=
    interpret_compose t true c time now
  exact ⟨i, hi, htitle, hcue, hdate, hhour, hminute⟩

end Agenda.Command
