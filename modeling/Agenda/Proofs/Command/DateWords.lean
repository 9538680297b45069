import Agenda.Command.Cue
import Agenda.Command.Title
import Agenda.Proofs.Text.LetterCase

/-!
Two passes look for date words: the cue is sought in the lower-cased text, and the title loses the
words that stand in the text under case folding. Both should know the same words. They do but for
the long s, which folds to the `s` of five weekday names and is no `s` in lower case. CORRECT here
is an equivalence: the passes agree on a text iff the last weekday that the title pass finds is also
spelled somewhere without a long s.
-/

namespace Agenda.Command
open Agenda.Calendar Agenda.Text

/-- The date that a text asks for, with the cue that decides it. -/
def resolve (text : List Char) (today : Date) : Date × Cue :=
  ((Cue.find text).date today, Cue.find text)

/-- The words that ask for another day: all that a title loses except `today`. -/
def dateWords : List (List Char) :=
  Title.dayWords.filter (· != "today".toList) ++ Title.weekdayNames

/-- The weekdays whose names a title loses, in the order of the week. -/
def weekdaysNamed (text : List Char) : List Weekday :=
  Weekday.all.filter fun day => standsIn day.name.toList text

/-- Both passes know the same words in a text: whether there is one, and the last weekday. -/
def RecognisedAlike (text : List Char) : Prop :=
  ∀ today, ((resolve text today).2 ≠ .today ↔ ∃ word ∈ dateWords, standsIn word text = true) ∧
    ∀ day, (resolve text today).2 = .weekday day ↔ (weekdaysNamed text).getLast? = some day

/-- A weekday's name is spelled somewhere in a text without a long s. -/
def PlainlyNamed (text : List Char) (day : Weekday) : Prop :=
  ∃ s, s <:+: text ∧ s.map fold = day.name.toList ∧ longS ∉ s

/-! ### The cue in the lower-cased text -/

theorem mem_all (day : Weekday) : day ∈ Weekday.all := by cases day <;> decide

theorem mem_weekdaysIn {day : Weekday} {lower : List Char} :
    day ∈ Cue.weekdaysIn lower ↔ occurs day.name.toList lower = true := by
  simp [Cue.weekdaysIn, mem_all]

theorem find_eq_weekday_iff (text : List Char) (day : Weekday) :
    Cue.find text = .weekday day ↔ (Cue.weekdaysIn (lowercase text)).getLast? = some day := by
  unfold Cue.find Cue.ofLower
  cases (Cue.weekdaysIn (lowercase text)).getLast? with
  | some d => simp
  | none =>
    simp only [reduceCtorEq, iff_false]
    split
    · simp
    · split <;> simp

theorem find_eq_today_iff (text : List Char) :
    Cue.find text = .today ↔ Cue.weekdaysIn (lowercase text) = [] ∧
      occurs "tomorrow".toList (lowercase text) = false ∧
      occurs "next week".toList (lowercase text) = false := by
  unfold Cue.find Cue.ofLower
  cases h : (Cue.weekdaysIn (lowercase text)).getLast? with
  | some d =>
    have hne : Cue.weekdaysIn (lowercase text) ≠ [] := by
      rintro hnil
      rw [hnil] at h
      cases h
    simp [hne]
  | none =>
    rw [List.getLast?_eq_none_iff] at h
    cases occurs "tomorrow".toList (lowercase text) <;>
      cases occurs "next week".toList (lowercase text) <;> simp [h]

/-! ### The words of both passes -/

theorem isAsciiWord_of_mem_dateWords : ∀ word ∈ dateWords, IsAsciiWord word := by
  decide

theorem isAsciiWord_name (day : Weekday) : IsAsciiWord day.name.toList := by
  cases day <;> decide

theorem mem_dateWords_iff (word : List Char) :
    word ∈ dateWords ↔ word = "tomorrow".toList ∨ word = "next week".toList ∨
      ∃ day : Weekday, word = day.name.toList := by
  have hdays : Title.dayWords.filter (· != "today".toList) =
      ["tomorrow".toList, "next week".toList] := by decide
  rw [dateWords, hdays, Title.weekdayNames]
  simp only [List.cons_append, List.nil_append, List.mem_cons, List.mem_map, mem_all, true_and]
  constructor
  · rintro (h | h | ⟨day, h⟩)
    · exact Or.inl h
    · exact Or.inr (Or.inl h)
    · exact Or.inr (Or.inr ⟨day, h.symm⟩)
  · rintro (h | h | ⟨day, h⟩)
    · exact Or.inl h
    · exact Or.inr (Or.inl h)
    · exact Or.inr (Or.inr ⟨day, h.symm⟩)

/-- Texts in which the same date words stand have the same cue. -/
theorem ofLower_congr {lower lower' : List Char}
    (h : ∀ word ∈ dateWords, occurs word lower = occurs word lower') :
    Cue.ofLower lower = Cue.ofLower lower' := by
  have hdays : Cue.weekdaysIn lower = Cue.weekdaysIn lower' := by
    refine List.filter_congr fun day _ => h _ ?_
    exact (mem_dateWords_iff _).2 (Or.inr (Or.inr ⟨day, rfl⟩))
  rw [Cue.ofLower, Cue.ofLower, hdays, h _ (by decide), h _ (by decide)]

/-- Words without an `s` are the same in both passes. -/
theorem occurs_lowercase_eq_standsIn {word : List Char} (hw : IsAsciiWord word)
    (hs : 's' ∉ word) (text : List Char) :
    occurs word (lowercase text) = standsIn word text := by
  rw [Bool.eq_iff_iff, occurs_lowercase_iff hw, standsIn_iff]
  constructor
  · rintro ⟨s, hin, hmap, -⟩
    exact ⟨s, hin, hmap⟩
  · rintro ⟨s, hin, rfl⟩
    refine ⟨s, hin, rfl, fun hmem => hs ?_⟩
    exact List.mem_map.2 ⟨longS, hmem, by decide⟩

/-- A text in which no date word stands has no cue. -/
theorem find_eq_today_of_not_standsIn {text : List Char}
    (h : ∀ word ∈ dateWords, standsIn word text = false) : Cue.find text = .today := by
  have hno : ∀ word ∈ dateWords, occurs word (lowercase text) = false := by
    intro word hword
    by_contra hocc
    have hin := standsIn_of_occurs_lowercase (isAsciiWord_of_mem_dateWords word hword)
      (by simpa using hocc)
    rw [h word hword] at hin
    cases hin
  refine (find_eq_today_iff text).2 ⟨?_, hno _ (by decide), hno _ (by decide)⟩
  rw [List.eq_nil_iff_forall_not_mem]
  intro day hday
  rw [mem_weekdaysIn, hno _ ((mem_dateWords_iff _).2 (Or.inr (Or.inr ⟨day, rfl⟩)))] at hday
  cases hday

/-! ### The weekdays of both passes -/

/-- The date pass sees some of the weekdays that the title pass sees. -/
theorem weekdaysIn_eq_filter (text : List Char) :
    Cue.weekdaysIn (lowercase text) =
      (weekdaysNamed text).filter fun day => occurs day.name.toList (lowercase text) := by
  rw [Cue.weekdaysIn, weekdaysNamed, List.filter_filter]
  refine List.filter_congr fun day _ => ?_
  cases h : occurs day.name.toList (lowercase text) with
  | true => rw [standsIn_of_occurs_lowercase (isAsciiWord_name day) h, Bool.and_self]
  | false => rw [Bool.false_and]

theorem getLast?_filter {α : Type} {p : α → Bool} {l : List α}
    (h : ∀ a, l.getLast? = some a → p a = true) : (l.filter p).getLast? = l.getLast? := by
  rcases List.eq_nil_or_concat l with rfl | ⟨init, a, rfl⟩
  · rfl
  · have ha : p a = true := h a (by simp)
    simp [List.filter_append, ha]

/-- If the last weekday of the title pass is spelled plainly, both passes end on the same one. -/
theorem getLast?_weekdaysIn {text : List Char}
    (h : ∀ day, (weekdaysNamed text).getLast? = some day → PlainlyNamed text day) :
    (Cue.weekdaysIn (lowercase text)).getLast? = (weekdaysNamed text).getLast? := by
  rw [weekdaysIn_eq_filter]
  refine getLast?_filter fun day hday => ?_
  exact (occurs_lowercase_iff (isAsciiWord_name day) text).2 (h day hday)

/-- CORRECT: the passes agree iff the last weekday of the title pass is spelled plainly as well. -/
theorem recognisedAlike_iff (text : List Char) :
    RecognisedAlike text ↔
      ∀ day, (weekdaysNamed text).getLast? = some day → PlainlyNamed text day := by
  constructor
  · intro halike day hday
    have hcue := ((halike { year := 1, month := 1, day := 1 }).2 day).2 hday
    rw [resolve, find_eq_weekday_iff] at hcue
    have hmem := mem_weekdaysIn.1 (List.mem_of_getLast? hcue)
    exact (occurs_lowercase_iff (isAsciiWord_name day) text).1 hmem
  · intro hplain today
    have hlast := getLast?_weekdaysIn hplain
    refine ⟨⟨?_, ?_⟩, fun day => by rw [← hlast]; exact find_eq_weekday_iff text day⟩
    · intro hcue
      by_contra hno
      refine hcue (find_eq_today_of_not_standsIn fun word hword => ?_)
      rw [Bool.eq_false_iff]
      exact fun hin => hno ⟨word, hword, hin⟩
    · rintro ⟨word, hword, hin⟩ hcue
      obtain ⟨hdays, htomorrow, hweek⟩ := (find_eq_today_iff text).1 hcue
      rcases (mem_dateWords_iff word).1 hword with rfl | rfl | ⟨day, rfl⟩
      · rw [occurs_lowercase_eq_standsIn (by decide) (by decide), hin] at htomorrow
        cases htomorrow
      · rw [occurs_lowercase_eq_standsIn (by decide) (by decide), hin] at hweek
        cases hweek
      · rw [hdays, List.getLast?_nil, eq_comm, List.getLast?_eq_none_iff] at hlast
        have hmem : day ∈ weekdaysNamed text := by simp [weekdaysNamed, mem_all, hin]
        rw [hlast] at hmem
        cases hmem

/-- At a weekday spelled with a long s the passes differ: the title loses it, the cue is today. -/
theorem not_recognisedAlike_longS :
    (∀ today, resolve "ſunday".toList today = (today, .today)) ∧
      standsIn "sunday".toList "ſunday".toList = true ∧ ¬ RecognisedAlike "ſunday".toList := by
  have hcue : Cue.find "ſunday".toList = .today := by decide
  have hin : standsIn "sunday".toList "ſunday".toList = true := by decide
  refine ⟨fun today => by rw [resolve, hcue]; rfl, hin, fun halike => ?_⟩
  have hfirst := (halike { year := 1, month := 1, day := 1 }).1
  exact hfirst.2 ⟨_, by decide, hin⟩ hcue

end Agenda.Command
