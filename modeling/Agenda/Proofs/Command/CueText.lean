import Agenda.Proofs.Command.DateWords

/-!
Written cues. A `CueText` is the word for a cue in some ASCII letter case, and a text in which one
date word stands and no other has the cue of that word. CORRECT: a cue word alone asks for the date
of its cue.
-/

namespace Agenda.Command
open Agenda.Calendar Agenda.Text

/-- The word for a cue, in lower case. -/
def Cue.words : Cue → List Char
  | .today => "today".toList
  | .tomorrow => "tomorrow".toList
  | .nextWeek => "next week".toList
  | .weekday day => day.name.toList

/-- The cues. -/
def Cue.all : List Cue := .today :: .tomorrow :: .nextWeek :: Weekday.all.map .weekday

theorem Cue.mem_all (cue : Cue) : cue ∈ Cue.all := by
  cases cue with
  | today | tomorrow | nextWeek => decide
  | weekday day => cases day <;> decide

/-- The word for a cue in some ASCII letter case. -/
structure CueText where
  chars : List Char
  cue : Cue
  chars_spell : chars.map Char.toLower = cue.words

/-! ### Reading a cue word -/

theorem Cue.all_isPlain (cue : Cue) : cue.words.all isPlain = true := by
  have hall : ∀ cue ∈ Cue.all, cue.words.all isPlain = true := by decide
  exact hall cue cue.mem_all

theorem CueText.reads (c : CueText) : c.chars.map fold = c.cue.words ∧ longS ∉ c.chars :=
  reads_of_map_toLower c.cue.all_isPlain c.chars_spell

theorem CueText.length_eq (c : CueText) : c.cue.words.length = c.chars.length := by
  rw [← c.chars_spell, List.length_map]

theorem toLower_of_isDigit {c : Char} (h : c.isDigit = true) : c.toLower = c := by
  simp only [Char.isDigit, Bool.and_eq_true, decide_eq_true_eq, UInt32.le_iff_toNat_le] at h
  have h9 : c.toNat ≤ 57 := h.2
  refine Char.toLower_eq_of_not_isUpper ?_
  rw [isUpper_iff]
  omega

theorem CueText.no_digit (c : CueText) : ∀ d ∈ c.chars, d.isDigit = false := by
  intro d hd
  rw [Bool.eq_false_iff]
  intro hdigit
  have hmem : d ∈ c.cue.words := by
    rw [← c.chars_spell, List.mem_map]
    exact ⟨d, hd, toLower_of_isDigit hdigit⟩
  have hnone : ∀ cue ∈ Cue.all, cue.words.all (fun d => !d.isDigit) = true := by decide
  have hno := List.all_eq_true.1 (hnone c.cue c.cue.mem_all) d hmem
  rw [hdigit] at hno
  cases hno

/-! ### One date word in a text -/

/-- The word for a cue is the one date word in it. -/
theorem Cue.occurs_words (cue : Cue) {word : List Char} (hword : word ∈ dateWords) :
    occurs word cue.words = decide (word = cue.words) := by
  have hself : ∀ cue ∈ Cue.all, ∀ word ∈ dateWords,
      occurs word cue.words = decide (word = cue.words) := by decide
  exact hself cue cue.mem_all word hword

theorem Cue.ofLower_words (cue : Cue) : Cue.ofLower cue.words = cue := by
  have hself : ∀ cue ∈ Cue.all, Cue.ofLower cue.words = cue := by decide
  exact hself cue cue.mem_all

/-- The cue of a text in which one date word stands and no other. -/
theorem find_eq_of_occurs {text : List Char} {cue : Cue}
    (h : ∀ word ∈ dateWords, occurs word (lowercase text) = decide (word = cue.words)) :
    Cue.find text = cue := by
  have hsame : ∀ word ∈ dateWords, occurs word (lowercase text) = occurs word cue.words :=
    fun word hword => (h word hword).trans (cue.occurs_words hword).symm
  rw [Cue.find, ofLower_congr hsame, cue.ofLower_words]

/-- CORRECT: a cue word alone asks for the date of its cue. -/
theorem resolve_cueText (c : CueText) (today : Date) :
    resolve c.chars today = (c.cue.date today, c.cue) := by
  have hlower : lowercase c.chars = c.cue.words :=
    lowercase_of_reads c.cue.all_isPlain c.reads.1 c.reads.2
  have hfind : Cue.find c.chars = c.cue := by rw [Cue.find, hlower, c.cue.ofLower_words]
  rw [resolve, hfind]

end Agenda.Command
