import Agenda.Proofs.Command.AnyCase
import Agenda.Proofs.Command.NumberRuns
import Agenda.Proofs.Command.WordOrder

/-!
Blanks around a command. No pass trims its text: blanks in front move every mention, blanks behind
may go into the mention as the gap in front of a marker that is not there, and where a text began or
ended a word there is a blank now. But the words that are looked for begin and end with a visible
character, a blank ends a word as the end of the text does, and no digit is a blank. So a pass over
a padded text leaves what it leaves of the text, padded again. CORRECT: the draft is the same.

    command     ⎵⎵Call Ann⎵at⎵9⎵⏎        Call Ann⎵at⎵9
    mention                  9⎵⏎                     9
    rest        ⎵⎵Call Ann⎵at⎵           Call Ann⎵at⎵
    stripped    ⎵⎵Call Ann⎵⎵             Call Ann⎵⎵
-/

namespace Agenda.Text

/-- A text with blanks added at its two ends. -/
inductive Padded (cs : List Char) : List Char → Prop where
  | blanks {front back : List Char} (hfront : allBlank front = true)
      (hback : allBlank back = true) : Padded cs (front ++ (cs ++ back))

/-- A word that is not empty and has a visible character at both ends. -/
structure VisibleEnds (word : List Char) : Prop where
  first : blankAhead word = false
  last : blankAhead word.reverse = false

instance (word : List Char) : Decidable (VisibleEnds word) :=
  decidable_of_iff (blankAhead word = false ∧ blankAhead word.reverse = false)
    ⟨fun h => ⟨h.1, h.2⟩, fun h => ⟨h.first, h.last⟩⟩

variable {cs ds front back word : List Char}

/-! ### Blanks -/

theorem isBlank_of_mem (h : allBlank cs = true) : ∀ c ∈ cs, isBlank c = true := List.all_eq_true.1 h

theorem allBlank_map_fold (cs : List Char) : allBlank (cs.map fold) = allBlank cs := by
  simp only [allBlank, List.all_map, Function.comp_def, isBlank_fold]

/-- No blank has another lower case. -/
theorem lowerChar_of_isBlank {c : Char} (h : isBlank c = true) : lowerChar c = [c] := by
  have hall : ∀ n ∈ blankCodes, lowerChar (Char.ofNat n) = [Char.ofNat n] := by decide +kernel
  exact of_blankCodes (fun c => lowerChar c = [c]) hall h

theorem lowercase_of_allBlank (h : allBlank cs = true) : lowercase cs = cs := by
  rw [lowercase, List.flatMap_congr fun c hc => lowerChar_of_isBlank (isBlank_of_mem h c hc)]
  exact List.flatMap_singleton' cs

theorem lowercase_append (cs ds : List Char) :
    lowercase (cs ++ ds) = lowercase cs ++ lowercase ds := List.flatMap_append

/-- The lower case of a padded text is padded. -/
theorem Padded.lower (h : Padded cs ds) : Padded (lowercase cs) (lowercase ds) := by
  cases h with
  | blanks hfront hback =>
    rw [lowercase_append, lowercase_append, lowercase_of_allBlank hfront,
      lowercase_of_allBlank hback]
    exact .blanks hfront hback

theorem Padded.allBlank_eq (h : Padded cs ds) : allBlank ds = allBlank cs := by
  cases h with
  | blanks hfront hback =>
    simp only [allBlank, List.all_append] at hfront hback ⊢
    rw [hfront, hback, Bool.true_and, Bool.and_true]

/-! ### Words with visible ends -/

theorem VisibleEnds.exists_first (h : VisibleEnds word) :
    ∃ l, word.head? = some l ∧ isBlank l = false := by
  cases word with
  | nil => exact absurd h.first (by decide)
  | cons l letters => exact ⟨l, rfl, h.first⟩

theorem VisibleEnds.exists_last (h : VisibleEnds word) :
    ∃ l, word.getLast? = some l ∧ isBlank l = false := by
  have hlast := h.last
  rw [← List.head?_reverse]
  cases hrev : word.reverse with
  | nil =>
    rw [hrev] at hlast
    exact absurd hlast (by decide)
  | cons l letters =>
    rw [hrev] at hlast
    exact ⟨l, rfl, hlast⟩

theorem not_mem_of_allBlank {l : Char} (hl : isBlank l = false) (h : allBlank cs = true) :
    l ∉ cs := by
  intro hmem
  rw [isBlank_of_mem h l hmem] at hl
  cases hl

/-- The first letter of a word in two joined texts lies in the first one, or the second has it. -/
theorem infix_of_head? {l : Char} (hl : word.head? = some l) (hcs : l ∉ cs)
    (h : word <:+: cs ++ ds) : word <:+: ds := by
  have hmem : ∀ {s : List Char}, s.head? = some l → l ∈ s := List.mem_of_mem_head?
  rcases List.infix_append_iff_ne_nil.1 h with h | h | ⟨first, last, hne, -, rfl, hfirst, -⟩
  · exact absurd (h.subset (hmem hl)) hcs
  · exact h
  · rw [List.head?_append_of_ne_nil _ hne] at hl
    exact absurd (hfirst.subset (hmem hl)) hcs

/-- Nothing but the text between the blanks has a word in it. -/
theorem Padded.infix_iff (h : Padded cs ds) (hword : VisibleEnds word) :
    word <:+: ds ↔ word <:+: cs := by
  obtain ⟨l, hl, hlvisible⟩ := hword.exists_first
  obtain ⟨r, hr, hrvisible⟩ := hword.exists_last
  cases h with
  | @blanks front back hfront hback =>
    constructor
    · intro hin
      have hbehind := infix_of_head? hl (not_mem_of_allBlank hlvisible hfront) hin
      exact Command.Title.infix_of_getLast hr (not_mem_of_allBlank hrvisible hback) hbehind
    · intro hin
      exact hin.trans ⟨front, back, List.append_assoc _ _ _⟩

/-- A word at the front of two joined texts ends in the first, or the second has its last letter. -/
theorem prefix_of_getLast {l : Char} (hl : word.getLast? = some l) (hds : l ∉ ds)
    (h : word <+: cs ++ ds) : word <+: cs := by
  rcases Nat.le_total word.length cs.length with hle | hle
  · exact List.prefix_of_prefix_length_le h (List.prefix_append cs ds) hle
  · obtain ⟨rest, rfl⟩ := List.prefix_of_prefix_length_le (List.prefix_append cs ds) h hle
    cases rest with
    | nil => rw [List.append_nil]
    | cons c rest =>
      rw [List.prefix_append_right_inj] at h
      rw [List.getLast?_append_of_ne_nil _ (List.cons_ne_nil c rest)] at hl
      exact absurd (h.subset (List.mem_of_getLast? hl)) hds

/-- A word at the front of a text with blanks behind ends before them. -/
theorem beginsWith_append (hword : VisibleEnds word) (hback : allBlank back = true)
    (cs : List Char) : beginsWith word (cs ++ back) = beginsWith word cs := by
  obtain ⟨l, hl, hvisible⟩ := hword.exists_last
  have hno : l ∉ back.map fold := not_mem_of_allBlank hvisible (by rwa [allBlank_map_fold])
  rw [Bool.eq_iff_iff, beginsWith_iff, beginsWith_iff, List.map_append]
  exact ⟨prefix_of_getLast hl hno, fun h => h.trans (List.prefix_append _ _)⟩

/-- No word begins with a blank. -/
theorem beginsWith_of_isBlank (hword : VisibleEnds word) {c : Char} (hc : isBlank c = true)
    (cs : List Char) : beginsWith word (c :: cs) = false := by
  cases word with
  | nil => exact absurd hword.first (by decide)
  | cons l letters =>
    have hne : fold c ≠ l := by
      rintro rfl
      have hvisible : isBlank (fold c) = false := hword.first
      rw [isBlank_fold, hc] at hvisible
      cases hvisible
    simp [beginsWith, hne]

/-- A word ends in front of blanks as it does at the end of the text. -/
theorem endsWord_append (hback : allBlank back = true) (cs : List Char) :
    endsWord (cs ++ back) = endsWord cs := by
  cases cs with
  | cons c cs => rfl
  | nil =>
    cases back with
    | nil => rfl
    | cons c back => exact endsWord_of_isBlank (isBlank_of_mem hback c List.mem_cons_self) back

theorem allBlank_drop (h : allBlank cs = true) (n : Nat) : allBlank (cs.drop n) = true :=
  List.all_eq_true.2 fun c hc => isBlank_of_mem h c (List.mem_of_mem_drop hc)

theorem endsWord_drop_append (hback : allBlank back = true) (n : Nat) (cs : List Char) :
    endsWord ((cs ++ back).drop n) = endsWord (cs.drop n) := by
  rw [List.drop_append, endsWord_append (allBlank_drop hback _)]

/-! ### Single spaces -/

/-- Where blanks are skipped in front, those behind stay or are skipped with all the text. -/
theorem skipBlanks_append (hback : allBlank back = true) (cs : List Char) :
    ∃ gap, allBlank gap = true ∧ skipBlanks (cs ++ back) = skipBlanks cs ++ gap := by
  rw [skipBlanks, skipBlanks, List.dropWhile_append]
  split
  · rename_i hempty
    refine ⟨[], rfl, ?_⟩
    rw [List.isEmpty_iff.1 hempty]
    exact (skipBlanks_eq_nil_iff back).2 hback
  · exact ⟨back, hback, rfl⟩

/-- Nothing is left of blanks behind. -/
theorem squeeze_append_blanks (hback : allBlank back = true) (cs : List Char) :
    squeeze (cs ++ back) = squeeze cs := by
  induction cs with
  | nil => exact squeeze_eq_nil hback
  | cons c cs ih =>
    have hahead : blankAhead (cs ++ back) = blankAhead cs := by
      cases cs with
      | cons d ds => rfl
      | nil =>
        cases back with
        | nil => rfl
        | cons b back => exact isBlank_of_mem hback b List.mem_cons_self
    rw [List.cons_append, squeeze, squeeze, hahead, ih]

/-- A padded text has the same words. -/
theorem Padded.unwords_words_eq (h : Padded cs ds) : unwords (words ds) = unwords (words cs) := by
  cases h with
  | @blanks front back hfront hback =>
    have hskip : skipBlanks (front ++ (cs ++ back)) = skipBlanks (cs ++ back) :=
      List.dropWhile_append_of_pos (isBlank_of_mem hfront)
    obtain ⟨gap, hgap, hback⟩ := skipBlanks_append hback cs
    rw [unwords_words, unwords_words, hskip, hback, squeeze_append_blanks hgap]

end Agenda.Text

namespace Agenda.Command
open Agenda.Calendar Agenda.Text

variable {cs ds front back : List Char}

/-! ### The cue -/

theorem visibleEnds_of_mem_dateWords : ∀ word ∈ dateWords, VisibleEnds word := by decide

/-- The cue of a padded text is that of the text. -/
theorem Cue.find_of_padded (h : Padded cs ds) : Cue.find ds = Cue.find cs := by
  refine ofLower_congr fun word hword => ?_
  rw [Bool.eq_iff_iff, occurs_iff, occurs_iff]
  exact h.lower.infix_iff (visibleEnds_of_mem_dateWords word hword)

/-! ### The mention -/

/-- As many digits are taken in front of blanks as at the end of a text. -/
theorem takeDigits_append_blanks (hback : allBlank back = true) (width : Nat) (cs : List Char) :
    takeDigits width (cs ++ back) = ((takeDigits width cs).1, (takeDigits width cs).2 ++ back) := by
  have hstop : ∀ c, back.head? = some c → c.isDigit = false := fun c hc =>
    (not_digit_colon_of_isBlank (isBlank_of_mem hback c (List.mem_of_mem_head? hc))).1
  induction cs generalizing width with
  | nil =>
    have hnone : takeDigits width ([] ++ back) = ([], back) :=
      takeDigits_run (by simp) (Nat.zero_le _) (Or.inr hstop)
    rw [hnone]
    cases width <;> rfl
  | cons c cs ih =>
    cases width with
    | zero => rfl
    | succ width =>
      rw [List.cons_append, takeDigits, takeDigits, ih]
      split <;> rfl

/-- The same minutes are taken in front of blanks as at the end of a text. -/
theorem takeMinutes_append_blanks (hback : allBlank back = true) (cs : List Char) :
    takeMinutes (cs ++ back) = ((takeMinutes cs).1, (takeMinutes cs).2 ++ back) := by
  by_cases h : ∃ a b tail, cs = ':' :: a :: b :: tail ∧ a.isDigit = true ∧ b.isDigit = true
  · obtain ⟨a, b, tail, rfl, ha, hb⟩ := h
    simp [takeMinutes, ha, hb]
  · have hnone : takeMinutes cs = ([], cs) :=
      Offer.takeMinutes_eq_nil fun a b tail hcs hdigits => h ⟨a, b, tail, hcs, hdigits⟩
    rw [hnone]
    refine Offer.takeMinutes_eq_nil ?_
    -- minutes end on a digit, so they would stand in front of the blanks
    rintro a b tail heq ⟨ha, hb⟩
    have hno : b ∉ back := by
      intro hmem
      rw [(not_digit_colon_of_isBlank (isBlank_of_mem hback b hmem)).1] at hb
      cases hb
    have hfront : [':', a, b] <+: cs := prefix_of_getLast rfl hno ⟨tail, heq.symm⟩
    obtain ⟨rest, rfl⟩ := hfront
    exact h ⟨a, b, rest, rfl, ha, hb⟩

theorem marker?_append_blanks (hback : allBlank back = true) (cs : List Char) :
    marker? (cs ++ back) = marker? cs := by
  have hvisible : VisibleEnds ['a', '.', 'm', '.'] ∧ VisibleEnds ['p', '.', 'm', '.'] ∧
      VisibleEnds ['a', 'm'] ∧ VisibleEnds ['p', 'm'] := by decide
  obtain ⟨ham, hpm, ham', hpm'⟩ := hvisible
  simp only [marker?, beginsWith_append ham hback, beginsWith_append hpm hback,
    beginsWith_append ham' hback, beginsWith_append hpm' hback, endsWord_drop_append hback]

/-- A candidate with blanks behind is the same time, and some of the blanks are left behind it. -/
theorem Candidate.ofText_append_blanks (hback : allBlank back = true) (cs : List Char) :
    (ofText (cs ++ back)).time? = (ofText cs).time? ∧
      ∃ gap, allBlank gap = true ∧ (ofText (cs ++ back)).after = (ofText cs).after ++ gap := by
  obtain ⟨gap, hgap, hskip⟩ := skipBlanks_append hback (takeMinutes (takeDigits 2 cs).2).2
  unfold skipBlanks at hskip
  simp only [ofText, time?, takeDigits_append_blanks hback, takeMinutes_append_blanks hback, hskip,
    marker?_append_blanks hgap, List.drop_append]
  exact ⟨trivial, _, allBlank_drop hgap _, rfl⟩

namespace TimeMention

/-- The same mention in a text with blanks behind, of which it may have taken some. -/
structure WithBlanks (m n : TimeMention) : Prop where
  time : m.time = n.time
  before : n.before = m.before
  after : ∃ gap, allBlank gap = true ∧ n.after = m.after ++ gap

theorem atFront?_append_blanks (hback : allBlank back = true) (cs : List Char) :
    Option.Rel WithBlanks (atFront? cs) (atFront? (cs ++ back)) := by
  obtain ⟨htime, hafter⟩ := Candidate.ofText_append_blanks hback cs
  rw [atFront?, atFront?, htime]
  cases (Candidate.ofText cs).time? with
  | none => exact Option.Rel.none
  | some time => exact Option.Rel.some ⟨rfl, rfl, hafter⟩

/-- There is no mention in blanks. -/
theorem scan_blanks (hback : allBlank back = true) (skipping : Bool) :
    scan skipping back = none := by
  induction back generalizing skipping with
  | nil => rfl
  | cons c back ih =>
    obtain ⟨hc, hrest⟩ := List.forall_mem_cons.1 (isBlank_of_mem hback)
    have hdigit := (not_digit_colon_of_isBlank hc).1
    simp [scan, hdigit, ih (List.all_eq_true.2 hrest)]

theorem push_of_withBlanks {first second : Option TimeMention}
    (h : Option.Rel WithBlanks first second) (c : Char) :
    Option.Rel WithBlanks (first.map (push c)) (second.map (push c)) := by
  cases h with
  | none => exact Option.Rel.none
  | some h => exact Option.Rel.some ⟨h.time, congrArg (c :: ·) h.before, h.after⟩

/-- The search goes through the text as if there were no blanks behind. -/
theorem scan_append_blanks (hback : allBlank back = true) (skipping : Bool) (cs : List Char) :
    Option.Rel WithBlanks (scan skipping cs) (scan skipping (cs ++ back)) := by
  induction cs generalizing skipping with
  | nil =>
    rw [List.nil_append, scan_blanks hback]
    exact Option.Rel.none
  | cons c cs ih =>
    have hfront := atFront?_append_blanks hback (c :: cs)
    rw [List.cons_append] at hfront ⊢
    rw [scan, scan]
    split
    · generalize atFront? (c :: cs) = first at hfront ⊢
      generalize atFront? (c :: (cs ++ back)) = second at hfront ⊢
      cases hfront with
      | none => exact push_of_withBlanks (ih true) c
      | some h => exact Option.Rel.some h
    · exact push_of_withBlanks (ih _) c

/-- In a padded text the same time is found, and the rest is padded. -/
theorem find_of_padded (h : Padded cs ds) :
    Option.Rel (fun m n => m.time = n.time ∧ Padded m.rest n.rest) (find cs) (find ds) := by
  cases h with
  | @blanks front back hfront hback =>
    have hdigit : ∀ c ∈ front, c.isDigit = false := fun c hc =>
      (not_digit_colon_of_isBlank (isBlank_of_mem hfront c hc)).1
    have hscan : Option.Rel WithBlanks (find cs) (find (cs ++ back)) :=
      scan_append_blanks hback false cs
    rw [find_append hdigit]
    generalize find cs = first at hscan ⊢
    generalize find (cs ++ back) = second at hscan ⊢
    cases hscan with
    | none => exact Option.Rel.none
    | @some m n hmn =>
      obtain ⟨gap, hgap, hafter⟩ := hmn.after
      refine Option.Rel.some ⟨hmn.time, ?_⟩
      have hrest : rest { n with before := front ++ n.before } = front ++ (m.rest ++ gap) := by
        simp [rest, hmn.before, hafter]
      rw [hrest]
      exact .blanks hfront hgap

end TimeMention

/-! ### The title -/

namespace Title
variable {words : List (List Char)}

/-- Blanks in front are kept by a pass over words. -/
theorem dropWords_append_front (hwords : ∀ word ∈ words, VisibleEnds word)
    (hfront : allBlank front = true) (cs : List Char) :
    dropWords words 0 (front ++ cs) = front ++ dropWords words 0 cs := by
  refine dropWords_append fun r hr hsuffix word hword => ?_
  obtain ⟨c, r, rfl⟩ := List.exists_cons_of_ne_nil hr
  have hc := isBlank_of_mem hfront c (hsuffix.subset List.mem_cons_self)
  exact beginsWith_of_isBlank (hwords word hword) hc (r ++ cs)

/-- Blanks behind are kept by a pass over words. -/
theorem dropWords_append_back (hwords : ∀ word ∈ words, VisibleEnds word)
    (hback : allBlank back = true) {skip : Nat} {cs : List Char} (hskip : skip ≤ cs.length) :
    dropWords words skip (cs ++ back) = dropWords words skip cs ++ back := by
  induction cs generalizing skip with
  | nil =>
    obtain rfl : skip = 0 := Nat.le_zero.1 hskip
    have hkeep : dropWords words 0 (back ++ []) = back ++ [] :=
      dropWords_append_front hwords hback []
    rw [List.append_nil] at hkeep
    exact hkeep
  | cons c cs ih =>
    cases skip with
    | succ skip => exact ih (Nat.le_of_succ_le_succ hskip)
    | zero =>
      have hsame : words.find? (fun word => beginsWith word (c :: (cs ++ back))) =
          words.find? fun word => beginsWith word (c :: cs) :=
        List.find?_congr fun word hword => beginsWith_append (hwords word hword) hback (c :: cs)
      rw [List.cons_append, dropWords, dropWords, hsame]
      cases hfind : words.find? fun word => beginsWith word (c :: cs) with
      | none => exact congrArg (c :: ·) (ih (Nat.zero_le _))
      | some word =>
        -- a word that is removed ends before the blanks
        have hbegins := List.find?_some hfind
        have hlength := ((beginsWith_iff word (c :: cs)).1 hbegins).length_le
        rw [List.length_map, List.length_cons] at hlength
        exact ih (Nat.sub_le_of_le_add hlength)

theorem visibleEnds_prepositions : VisibleEnds ['a', 't'] ∧ VisibleEnds ['o', 'n'] := by decide

theorem beginsWithPreposition_append (hback : allBlank back = true) (cs : List Char) :
    beginsWithPreposition (cs ++ back) = beginsWithPreposition cs := by
  obtain ⟨hat, hon⟩ := visibleEnds_prepositions
  simp only [beginsWithPreposition, beginsWith_append hat hback, beginsWith_append hon hback,
    endsWord_drop_append hback]

/-- A blank is kept by the pass over prepositions, and a word may begin behind it. -/
theorem dropPrepositions_of_isBlank {c : Char} (hc : isBlank c = true) (inWord : Bool)
    (cs : List Char) :
    dropPrepositions 0 inWord (c :: cs) = c :: dropPrepositions 0 false cs := by
  obtain ⟨hat, hon⟩ := visibleEnds_prepositions
  have hno : beginsWithPreposition (c :: cs) = false := by
    simp [beginsWithPreposition, beginsWith_of_isBlank hat hc, beginsWith_of_isBlank hon hc]
  rw [dropPrepositions, hno, isWordChar_of_isBlank hc]
  simp

theorem dropPrepositions_append_front (hfront : allBlank front = true) (cs : List Char) :
    dropPrepositions 0 false (front ++ cs) = front ++ dropPrepositions 0 false cs := by
  induction front with
  | nil => rfl
  | cons c front ih =>
    obtain ⟨hc, hrest⟩ := List.forall_mem_cons.1 (isBlank_of_mem hfront)
    rw [List.cons_append, dropPrepositions_of_isBlank hc, ih (List.all_eq_true.2 hrest)]
    rfl

theorem dropPrepositions_append_back (hback : allBlank back = true) {skip : Nat}
    {cs : List Char} (hskip : skip ≤ cs.length) (inWord : Bool) :
    dropPrepositions skip inWord (cs ++ back) = dropPrepositions skip inWord cs ++ back := by
  induction cs generalizing skip inWord with
  | nil =>
    obtain rfl : skip = 0 := Nat.le_zero.1 hskip
    cases back with
    | nil => rfl
    | cons c back =>
      obtain ⟨hc, hrest⟩ := List.forall_mem_cons.1 (isBlank_of_mem hback)
      have hkeep : dropPrepositions 0 false (back ++ []) = back ++ [] :=
        dropPrepositions_append_front (List.all_eq_true.2 hrest) []
      rw [List.append_nil] at hkeep
      rw [List.nil_append, dropPrepositions_of_isBlank hc, hkeep]
      rfl
  | cons c cs ih =>
    cases skip with
    | succ skip => exact ih (Nat.le_of_succ_le_succ hskip) _
    | zero =>
      have hsame := beginsWithPreposition_append hback (c :: cs)
      rw [List.cons_append] at hsame ⊢
      rw [dropPrepositions, dropPrepositions, hsame]
      split
      · rename_i hbegins
        obtain ⟨a, b, rest, hcons, -⟩ :=
          (beginsWithPreposition_iff _).1 (Bool.and_eq_true_iff.1 hbegins).2
        obtain ⟨rfl, rfl⟩ := List.cons.inj hcons
        exact ih (Nat.le_add_left 1 _) _
      · exact congrArg (c :: ·) (ih (Nat.zero_le _) _)

theorem dropWords_of_padded (hwords : ∀ word ∈ words, VisibleEnds word) (h : Padded cs ds) :
    Padded (dropWords words 0 cs) (dropWords words 0 ds) := by
  cases h with
  | blanks hfront hback =>
    rw [dropWords_append_front hwords hfront, dropWords_append_back hwords hback (Nat.zero_le _)]
    exact .blanks hfront hback

theorem dropPrepositions_of_padded (h : Padded cs ds) :
    Padded (dropPrepositions 0 false cs) (dropPrepositions 0 false ds) := by
  cases h with
  | blanks hfront hback =>
    rw [dropPrepositions_append_front hfront, dropPrepositions_append_back hback (Nat.zero_le _)]
    exact .blanks hfront hback

/-- All passes leave the blanks around a text. -/
theorem strip_of_padded (h : Padded cs ds) : Padded (strip cs) (strip ds) := by
  have hdays : ∀ word ∈ dayWords, VisibleEnds word := by decide
  have hnames : ∀ word ∈ weekdayNames, VisibleEnds word := by decide
  exact dropPrepositions_of_padded (dropWords_of_padded hnames (dropWords_of_padded hdays h))

/-- A padded rest makes the same title. -/
theorem ofRest_of_padded (h : Padded cs ds) : ofRest ds = ofRest cs := by
  rw [ofRest, ofRest, (strip_of_padded h).unwords_words_eq]

end Title

/-! ### The draft -/

/-- The draft of a padded text is that of the text. -/
theorem draft_of_padded (h : Padded cs ds) (now : Instant) :
    (interpretText ds now).draft = (interpretText cs now).draft := by
  have hcue := Cue.find_of_padded h
  have hmention := TimeMention.find_of_padded h
  unfold interpretText
  simp only [hcue]
  generalize TimeMention.find cs = first at hmention ⊢
  generalize TimeMention.find ds = second at hmention ⊢
  cases hmention with
  | none => simp only [Title.ofRest_of_padded h]
  | some hmn =>
    obtain ⟨htime, hrest⟩ := hmn
    simp only [TimeMention.start, htime, Title.ofRest_of_padded hrest]

/--
CORRECT: blanks around a command, whichever and however many, change nothing: both commands are
blank and have no draft, or both have the same one.
-/
theorem outer_blanks_change_nothing {front back : String}
    (hfront : ∀ c ∈ front.toList, isBlank c = true) (hback : ∀ c ∈ back.toList, isBlank c = true)
    (command : String) (now : Instant) :
    draft? (front ++ command ++ back) now = draft? command now := by
  have hpadded : Padded command.toList (front ++ command ++ back).toList := by
    rw [String.toList_append, String.toList_append, List.append_assoc]
    exact .blanks (List.all_eq_true.2 hfront) (List.all_eq_true.2 hback)
  have hdraft := draft_of_padded hpadded now
  unfold draft? interpret
  rw [isBlankText, isBlankText, hpadded.allBlank_eq]
  split
  · rfl
  · rw [Option.map_some, Option.map_some, hdraft]

/-- Blanks in front of a command and behind, where the time takes them with it. -/
theorem outer_blanks_change_nothing_call :
    ((∀ c ∈ "\u3000\t".toList, isBlank c = true) ∧ ∀ c ∈ "\u2003\n".toList, isBlank c = true) ∧
    (∀ now, draft? ("\u3000\t" ++ "Call Ann at 9" ++ "\u2003\n") now =
      draft? "Call Ann at 9" now) ∧
    (TimeMention.find ("\u3000\t" ++ "Call Ann at 9" ++ "\u2003\n").toList).map (·.matched) =
      some "9\u2003\n".toList := by
  have hfront : ∀ c ∈ "\u3000\t".toList, isBlank c = true := List.all_eq_true.1 (by decide)
  have hback : ∀ c ∈ "\u2003\n".toList, isBlank c = true := List.all_eq_true.1 (by decide)
  exact ⟨⟨hfront, hback⟩, outer_blanks_change_nothing hfront hback "Call Ann at 9",
    by decide +kernel⟩

end Agenda.Command
