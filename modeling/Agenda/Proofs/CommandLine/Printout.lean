import Agenda.CommandLine.Run
import Agenda.Proofs.Calendar.DateText
import Agenda.Proofs.Command.TitleForm
import Agenda.Proofs.Command.Totality

/-!
The printed draft as scripts read it. Title and note are printed as they are, so a line feed in one
of them would look like the end of a field. A title has none, since its blanks are spaces: what was
a line break in the command is a space in its title or gone. So the text has four lines, each known
by its place, and every field of them is read back. CORRECT: drafts are told apart by their text.

    title: Line one two          all of the line behind the label
    date:  -0001-12-31           a date, whose year may have a sign of its own
    time:  21:00-22:00           two times, parted by the last hyphen
    note:  Scheduled via ...     all of the line behind the label
-/

namespace Agenda.CommandLine
open Agenda.Calendar Agenda.Command Agenda.Text

/-- What is printed of a draft: everything but its color. -/
structure Printed where
  title : String
  date : Date
  start : TimeOfDay
  finish : TimeOfDay
  note : String
  deriving DecidableEq

/-- What is printed of a draft. -/
def Printed.ofDraft (d : Draft) : Printed where
  title := d.title
  date := d.date
  start := d.start
  finish := d.finish
  note := d.note

/-! ### Reading -/

/-- The lines of a text, parted by line feeds. -/
def lines (text : String) : List String := (text.toList.splitOn '\n').map String.ofList

/-- What stands behind a label at the front of a line. -/
def behind? (label line : String) : Option String :=
  (label.toList.isPrefixOf? line.toList).map String.ofList

/-- The text before and behind the last mark in it. -/
def cutAtLast? (mark : Char) : List Char → Option (List Char × List Char)
  | [] => none
  | c :: cs =>
    match cutAtLast? mark cs with
    | some (before, behind) => some (c :: before, behind)
    | none => if c = mark then some ([], cs) else none

/-- The two times around the last hyphen. -/
def readTimes? (text : String) : Option (TimeOfDay × TimeOfDay) := do
  let (start, finish) ← cutAtLast? '-' text.toList
  let start ← (TimeOfDay.ofText (String.ofList start)).toOption
  let finish ← (TimeOfDay.ofText (String.ofList finish)).toOption
  some (start, finish)

/-- What four lines tell of a draft, each read by its own label. -/
def Printed.ofText? (text : String) : Option Printed :=
  match lines text with
  | [first, second, third, fourth] => do
    let title ← behind? "title: " first
    let date ← (Date.ofText (← behind? "date:  " second)).toOption
    let (start, finish) ← readTimes? (← behind? "time:  " third)
    let note ← behind? "note:  " fourth
    some { title, date, start, finish, note }
  | _ => none

/-- The lines that a draft is printed in. -/
def draftLines (d : Draft) : List String :=
  ["title: " ++ d.title, "date:  " ++ d.date.text,
    "time:  " ++ d.start.text ++ "-" ++ d.finish.text, "note:  " ++ d.note]

/-! ### Dates and times are on one line -/

/-- A text without blanks other than spaces. -/
def OnlySpaces (cs : List Char) : Prop := ∀ c ∈ cs, isBlank c = true → c = ' '

instance (cs : List Char) : Decidable (OnlySpaces cs) :=
  List.decidableBAll (fun c => isBlank c = true → c = ' ') cs

theorem onlySpaces_append {cs ds : List Char} :
    OnlySpaces (cs ++ ds) ↔ OnlySpaces cs ∧ OnlySpaces ds := List.forall_mem_append

theorem OnlySpaces.no_lineFeed {cs : List Char} (h : OnlySpaces cs) : '\n' ∉ cs := fun hmem =>
  absurd (h '\n' hmem (by decide)) (by decide)

theorem onlySpaces_of_isDigit {cs : List Char} (h : ∀ c ∈ cs, c.isDigit = true) :
    OnlySpaces cs := by
  intro c hc hblank
  rw [(not_blank_of_isDigit (h c hc)).1] at hblank
  cases hblank

theorem onlySpaces_twoDigits {n : Nat} (h : n < 100) : OnlySpaces (twoDigits n) :=
  onlySpaces_of_isDigit (List.all_eq_true.1 (all_isDigit_twoDigits n h))

theorem onlySpaces_padded (width n : Nat) : OnlySpaces (padded width n) :=
  onlySpaces_of_isDigit fun _ => isDigit_of_mem_padded

theorem onlySpaces_date (d : Date) : OnlySpaces d.text.toList := by
  have hmonth : d.month < 100 := Nat.lt_of_le_of_lt d.isDate.2.1.2 (by decide)
  have hday : d.day < 100 := Nat.lt_of_le_of_lt d.day_le (by decide)
  have hmark : OnlySpaces ['-'] := by decide
  have hyear : OnlySpaces (yearChars d.year) := by
    unfold yearChars
    split
    · exact onlySpaces_padded _ _
    · have hsign : OnlySpaces [if d.year < 0 then '-' else '+'] := by
        split <;> decide
      exact onlySpaces_append.2 ⟨hsign, onlySpaces_padded _ _⟩
  rw [Date.text, String.toList_ofList, Date.chars, List.append_assoc]
  refine onlySpaces_append.2 ⟨hyear, onlySpaces_append.2 ⟨?_, ?_⟩⟩
  · exact onlySpaces_append.2 ⟨hmark, onlySpaces_twoDigits hmonth⟩
  · exact onlySpaces_append.2 ⟨hmark, onlySpaces_twoDigits hday⟩

theorem onlySpaces_time (t : TimeOfDay) : OnlySpaces t.text.toList := by
  have hhour : t.hour < 100 := Nat.lt_trans t.hour_lt (by decide)
  have hminute : t.minute < 100 := Nat.lt_trans t.minute_lt (by decide)
  have hmark : OnlySpaces [':'] := by decide
  rw [TimeOfDay.text, String.toList_ofList, TimeOfDay.chars]
  exact onlySpaces_append.2 ⟨onlySpaces_twoDigits hhour,
    onlySpaces_append.2 ⟨hmark, onlySpaces_twoDigits hminute⟩⟩

/-- A text of digits and colons has no hyphen. -/
theorem no_hyphen_time (t : TimeOfDay) : '-' ∉ t.text.toList := by
  have hhour := all_isDigit_twoDigits t.hour (Nat.lt_trans t.hour_lt (by decide))
  have hminute := all_isDigit_twoDigits t.minute (Nat.lt_trans t.minute_lt (by decide))
  have hdigit : ∀ n, (twoDigits n).all Char.isDigit = true → '-' ∉ twoDigits n := by
    intro n hall hmem
    exact absurd (List.all_eq_true.1 hall '-' hmem) (by decide)
  rw [TimeOfDay.text, String.toList_ofList, TimeOfDay.chars, List.mem_append, List.mem_cons]
  rintro (h | h | h)
  · exact hdigit _ hhour h
  · exact absurd h (by decide)
  · exact hdigit _ hminute h

/-! ### The lines of a draft -/

theorem behind?_append (label text : String) : behind? label (label ++ text) = some text := by
  have hfront : ∀ cs ds : List Char, cs.isPrefixOf? (cs ++ ds) = some ds := by
    intro cs ds
    induction cs with
    | nil => rfl
    | cons c cs ih => simp [List.isPrefixOf?, ih]
  rw [behind?, String.toList_append, hfront, Option.map_some, String.ofList_toList]

theorem cutAtLast?_of_not_mem {mark : Char} {cs : List Char} (h : mark ∉ cs) :
    cutAtLast? mark cs = none := by
  induction cs with
  | nil => rfl
  | cons c cs ih =>
    obtain ⟨hc, hcs⟩ := not_or.1 (mt List.mem_cons.2 h)
    rw [cutAtLast?, ih hcs]
    exact if_neg (Ne.symm hc)

/-- A text is cut at a mark behind which there is none. -/
theorem cutAtLast?_append {mark : Char} (before : List Char) {behind : List Char}
    (h : mark ∉ behind) : cutAtLast? mark (before ++ mark :: behind) = some (before, behind) := by
  induction before with
  | nil =>
    rw [List.nil_append, cutAtLast?, cutAtLast?_of_not_mem h]
    exact if_pos rfl
  | cons c before ih => rw [List.cons_append, cutAtLast?, ih]

theorem readTimes?_text (start finish : TimeOfDay) :
    readTimes? (start.text ++ "-" ++ finish.text) = some (start, finish) := by
  have hcut : cutAtLast? '-' (start.text.toList ++ '-' :: finish.text.toList) =
      some (start.text.toList, finish.text.toList) :=
    cutAtLast?_append start.text.toList (no_hyphen_time finish)
  simp [readTimes?, hcut, TimeOfDay.ofText_text, Except.toOption]

/-- A draft is printed in its lines. -/
theorem toList_draftText (d : Draft) :
    (draftText d).toList = ['\n'].intercalate ((draftLines d).map String.toList) := by
  have htext : draftText d = "title: " ++ d.title ++ "\ndate:  " ++ d.date.text ++ "\ntime:  " ++
      d.start.text ++ "-" ++ d.finish.text ++ "\n" ++ ("note:  " ++ d.note) := rfl
  rw [htext]
  simp [draftLines, List.intercalate]

/-- No line of a draft has a line feed in it, if title and note have none. -/
theorem no_lineFeed_draftLines {d : Draft} (htitle : '\n' ∉ d.title.toList)
    (hnote : '\n' ∉ d.note.toList) : ∀ line ∈ draftLines d, '\n' ∉ line.toList := by
  have hdate := (onlySpaces_date d.date).no_lineFeed
  have hstart := (onlySpaces_time d.start).no_lineFeed
  have hfinish := (onlySpaces_time d.finish).no_lineFeed
  simp [draftLines, htitle, hnote, hdate, hstart, hfinish]

/-- A draft without line feeds in title and note has four lines. -/
theorem lines_draftText {d : Draft} (htitle : '\n' ∉ d.title.toList)
    (hnote : '\n' ∉ d.note.toList) : lines (draftText d) = draftLines d := by
  have hlines : ∀ line ∈ (draftLines d).map String.toList, '\n' ∉ line :=
    List.forall_mem_map.2 (no_lineFeed_draftLines htitle hnote)
  rw [lines, toList_draftText, List.splitOn_intercalate '\n' hlines (by simp [draftLines]),
    List.map_map]
  simp [Function.comp_def]

/-- What is printed of such a draft is read back. -/
theorem ofText?_draftText {d : Draft} (htitle : '\n' ∉ d.title.toList)
    (hnote : '\n' ∉ d.note.toList) :
    Printed.ofText? (draftText d) = some (Printed.ofDraft d) := by
  rw [Printed.ofText?, lines_draftText htitle hnote]
  have htimes := readTimes?_text d.start d.finish
  rw [String.append_assoc] at htimes
  simp [draftLines, String.append_assoc, behind?_append, htimes, Date.ofText_text,
    Except.toOption, Printed.ofDraft]

/-! ### The drafts of commands -/

theorem onlySpaces_draftLines {d : Draft} (htitle : OnlySpaces d.title.toList)
    (hnote : OnlySpaces d.note.toList) : ∀ line ∈ draftLines d, OnlySpaces line.toList := by
  have hlabels : OnlySpaces "title: ".toList ∧ OnlySpaces "date:  ".toList ∧
      OnlySpaces "time:  ".toList ∧ OnlySpaces "-".toList ∧ OnlySpaces "note:  ".toList := by
    decide
  obtain ⟨h1, h2, h3, h4, h5⟩ := hlabels
  have hdate := onlySpaces_date d.date
  have htimes := onlySpaces_append.2 ⟨onlySpaces_append.2
    ⟨onlySpaces_append.2 ⟨h3, onlySpaces_time d.start⟩, h4⟩, onlySpaces_time d.finish⟩
  simp only [draftLines, List.forall_mem_cons, String.toList_append]
  exact ⟨onlySpaces_append.2 ⟨h1, htitle⟩, onlySpaces_append.2 ⟨h2, hdate⟩, htimes,
    onlySpaces_append.2 ⟨h5, hnote⟩, List.forall_mem_nil _⟩

/-- What holds of a mark and in every piece holds in the pieces joined by the mark. -/
theorem forall_mem_intercalate {p : Char → Prop} {mark : Char} (hmark : p mark) :
    ∀ {pieces : List (List Char)}, (∀ piece ∈ pieces, ∀ c ∈ piece, p c) →
      ∀ c ∈ [mark].intercalate pieces, p c
  | [], _ => List.forall_mem_nil p
  | [piece], h => by
    rw [List.intercalate_singleton]
    exact h piece List.mem_cons_self
  | piece :: next :: pieces, h => by
    obtain ⟨hpiece, hpieces⟩ := List.forall_mem_cons.1 h
    rw [List.intercalate_cons_cons, List.forall_mem_append, List.forall_mem_append]
    exact ⟨⟨hpiece, List.forall_mem_singleton.2 hmark⟩, forall_mem_intercalate hmark hpieces⟩

/-- Where title and note have no blanks but spaces, only spaces and line feeds are printed. -/
theorem isBlank_draftText {d : Draft} (htitle : OnlySpaces d.title.toList)
    (hnote : OnlySpaces d.note.toList) :
    ∀ c ∈ (draftText d).toList, isBlank c = true → c = ' ' ∨ c = '\n' := by
  rw [toList_draftText]
  refine forall_mem_intercalate (fun _ => Or.inr rfl) (List.forall_mem_map.2 ?_)
  intro line hline c hc hblank
  exact Or.inl (onlySpaces_draftLines htitle hnote line hline c hc hblank)

/-- A draft made from a command has only spaces in its title and its note. -/
theorem draft_of_draft? {command : String} {now : Instant} {d : Draft}
    (h : draft? command now = some d) :
    d.color = Draft.commandColor ∧ OnlySpaces d.title.toList ∧ OnlySpaces d.note.toList := by
  have hnote : OnlySpaces Draft.commandNote.toList := by decide
  obtain ⟨i, hi, rfl⟩ := Option.map_eq_some_iff.1 h
  obtain ⟨-, rest, hd⟩ := draft_of_interpret hi
  rw [hd]
  exact ⟨rfl, (Title.isTitle_ofRest rest).spaces, hnote⟩

/-- A draft with this color is known from what is printed of it. -/
theorem ofDraft_inj {d e : Draft} (hcolor : d.color = e.color)
    (h : Printed.ofDraft d = Printed.ofDraft e) : d = e := by
  obtain ⟨title, date, start, finish, color, note⟩ := d
  cases e
  cases hcolor
  cases h
  rfl

/--
CORRECT: the draft of a command is printed in four lines, with no blanks but spaces and the three
line feeds between them, and from the lines its title, its date, its two times and its note are read
back. So two commands, whenever they are interpreted, print the same text iff their drafts are the
same.
-/
theorem printed_draft_is_read_back {command : String} (h : isBlankText command = false)
    (now : Instant) :
    ∃ d, draft? command now = some d ∧
      lines (render d false) = ["title: " ++ d.title, "date:  " ++ d.date.text,
        "time:  " ++ d.start.text ++ "-" ++ d.finish.text, "note:  " ++ d.note] ∧
      (∀ c ∈ (render d false).toList, isBlank c = true → c = ' ' ∨ c = '\n') ∧
      Printed.ofText? (render d false) =
        some { title := d.title, date := d.date, start := d.start, finish := d.finish,
               note := d.note } ∧
      ∀ other instant e, draft? other instant = some e →
        (render d false = render e false ↔ d = e) := by
  have hread : ∀ {command now d}, draft? command now = some d →
      Printed.ofText? (draftText d) = some (Printed.ofDraft d) := by
    intro command now d hd
    obtain ⟨-, htitle, hnote⟩ := draft_of_draft? hd
    exact ofText?_draftText htitle.no_lineFeed hnote.no_lineFeed
  obtain ⟨d, hd⟩ : ∃ d, draft? command now = some d := by
    rw [draft?, interpret, h]
    exact ⟨_, rfl⟩
  obtain ⟨hcolor, htitle, hnote⟩ := draft_of_draft? hd
  refine ⟨d, hd, lines_draftText htitle.no_lineFeed hnote.no_lineFeed,
    isBlank_draftText htitle hnote, hread hd, ?_⟩
  intro other instant e he
  constructor
  · intro htext
    have hprinted : some (Printed.ofDraft d) = some (Printed.ofDraft e) := by
      rw [← hread hd, ← hread he]
      exact congrArg Printed.ofText? htext
    exact ofDraft_inj (hcolor.trans (draft_of_draft? he).1.symm) (Option.some.inj hprinted)
  · rintro rfl
    rfl

/-- A command in three lines, of which one looks like a field, in a year before the first one. -/
theorem printed_draft_is_read_back_standup :
    isBlankText "Standup\nnote:  moved\u2028at 9pm" = false ∧
      ∃ d, draft? "Standup\nnote:  moved\u2028at 9pm"
          { date := { year := -1, month := 12, day := 31 }, time := { hour := 8, minute := 0 },
            second := 0 } = some d ∧
        lines (render d false) = ["title: Standup note: moved", "date:  -0001-12-31",
          "time:  21:00-22:00", "note:  Scheduled via AI Command Center"] := by
  have hvisible : isBlankText "Standup\nnote:  moved\u2028at 9pm" = false := by decide
  obtain ⟨d, hd, hlines, -⟩ := printed_draft_is_read_back hvisible
    { date := { year := -1, month := 12, day := 31 }, time := { hour := 8, minute := 0 },
      second := 0 }
  have hdraft : draft? "Standup\nnote:  moved\u2028at 9pm"
      { date := { year := -1, month := 12, day := 31 }, time := { hour := 8, minute := 0 },
        second := 0 } =
      some (.ofCommand "Standup note: moved" { year := -1, month := 12, day := 31 }
        { hour := 21, minute := 0 }) := by decide +kernel
  obtain rfl : _ = d := Option.some.inj (hdraft.symm.trans hd)
  exact ⟨hvisible, _, hd, hlines.trans (by decide +kernel)⟩

end Agenda.CommandLine
