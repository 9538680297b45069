import Agenda.Command.TimeMention
import Agenda.Proofs.Text.LetterCase

/-!
Written clock times and how they are read. A `ClockText` is an hour of one or two digits, minutes if
there are any, and a marker if there is one; its hour is inside the range that the marker allows, so
that it denotes a time of day. CORRECT: a clock text is found where it stands alone, as a whole and
with the time that it denotes, and characters that are no digits in front of a text only move the
mention in it.

    hour   minutes      blanks marker
    3                          pm          15:00
    03     :30                 a.m.        03:30
    15     :00                             15:00
-/

namespace Agenda.Command
open Agenda.Calendar Agenda.Text

/-- The two ways to write a marker, in lower case. -/
def Meridiem.spellings : Meridiem → List (List Char)
  | .am => ["am".toList, "a.m.".toList]
  | .pm => ["pm".toList, "p.m.".toList]

/-- A written marker with the blanks before it. -/
structure Marker where
  blanks : List Char
  letters : List Char
  half : Meridiem
  blanks_isBlank : ∀ c ∈ blanks, isBlank c = true
  letters_spell : letters.map Char.toLower ∈ half.spellings

/-- A written clock time. -/
structure ClockText where
  hour : List Char
  minutes : Option (Char × Char)
  marker : Option Marker
  hour_length : hour.length = 1 ∨ hour.length = 2
  hour_digits : ∀ c ∈ hour, c.isDigit = true
  minutes_digits : ∀ a b, minutes = some (a, b) →
    a.isDigit = true ∧ b.isDigit = true ∧ numeral [a, b] ≤ 59
  hour_range : if marker.isSome then 1 ≤ numeral hour ∧ numeral hour ≤ 12 else numeral hour ≤ 23

namespace ClockText

/-- The characters of the minutes. -/
def minuteChars (t : ClockText) : List Char :=
  match t.minutes with
  | some (a, b) => [':', a, b]
  | none => []

/-- The characters of the marker. -/
def markerChars (t : ClockText) : List Char :=
  match t.marker with
  | some m => m.blanks ++ m.letters
  | none => []

/-- The characters of a clock time. -/
def chars (t : ClockText) : List Char := t.hour ++ (t.minuteChars ++ t.markerChars)

/-- The hour that is meant on the 24-hour clock. -/
def denotedHour (t : ClockText) : Nat :=
  match t.marker with
  | none => numeral t.hour
  | some m =>
    match m.half with
    | .am => numeral t.hour % 12
    | .pm => numeral t.hour % 12 + 12

/-- The minute that is meant. -/
def denotedMinute (t : ClockText) : Nat :=
  match t.minutes with
  | some (a, b) => numeral [a, b]
  | none => 0

theorem denotedHour_lt (t : ClockText) : t.denotedHour < 24 := by
  have hrange := t.hour_range
  unfold denotedHour
  cases hm : t.marker with
  | none =>
    simp only [hm, Option.isSome_none, Bool.false_eq_true, ite_false] at hrange ⊢
    omega
  | some m =>
    cases hh : m.half <;> simp only [hh] <;> omega

theorem denotedMinute_lt (t : ClockText) : t.denotedMinute < 60 := by
  unfold denotedMinute
  cases hm : t.minutes with
  | none => decide
  | some p => exact Nat.lt_succ_of_le (t.minutes_digits p.1 p.2 hm).2.2

/-- The time of day that is meant. -/
def time (t : ClockText) : TimeOfDay where
  hour := t.denotedHour
  minute := t.denotedMinute
  hour_lt := t.denotedHour_lt
  minute_lt := t.denotedMinute_lt

/-- The marker's half of the day turns the hour into the one that is meant. -/
theorem hourOfDay_eq (t : ClockText) :
    hourOfDay (numeral t.hour) (t.marker.map (·.half)) = t.denotedHour := by
  have hrange := t.hour_range
  unfold denotedHour
  cases hm : t.marker with
  | none => rfl
  | some m =>
    simp only [hm, Option.isSome_some, ite_true] at hrange
    cases hh : m.half with
    | am =>
      simp only [Option.map_some, hh, hourOfDay]
      split <;> omega
    | pm =>
      simp only [Option.map_some, hh, hourOfDay]
      split <;> omega

end ClockText

/-! ### Reading the parts -/

/-- The spellings of the markers are read in any ASCII letter case at the end of a text. -/
theorem marker?_of_fold {cs word : List Char} {half : Meridiem} (hword : word ∈ half.spellings)
    (h : cs.map fold = word) : marker? cs = some (half, cs.length) := by
  have hlen : cs.length = word.length := by rw [← h, List.length_map]
  have hends : cs.length = 2 → endsWord (cs.drop 2) = true := by
    intro h2
    rw [List.drop_eq_nil_of_le (by omega)]
    rfl
  unfold marker?
  simp only [beginsWith_eq, h, hlen]
  cases half <;> simp only [Meridiem.spellings, List.mem_cons, List.not_mem_nil, or_false] at hword
  · rcases hword with rfl | rfl
    · rw [hends (by rw [hlen]; rfl)]
      decide
    · rfl
  · rcases hword with rfl | rfl
    · rw [hends (by rw [hlen]; rfl)]
      decide
    · rfl

theorem Meridiem.all_isPlain (half : Meridiem) :
    ∀ word ∈ half.spellings, word.all isPlain = true := by
  cases half <;> decide

theorem marker?_letters (m : Marker) : marker? m.letters = some (m.half, m.letters.length) := by
  have hfold := (reads_of_map_toLower (m.half.all_isPlain _ m.letters_spell) rfl).1
  exact marker?_of_fold m.letters_spell hfold

/-- Behind an hour, or behind minutes, nothing that would be taken for more of them. -/
def EndsNumber (cs : List Char) : Prop := ∀ c, cs.head? = some c → c.isDigit = false ∧ c ≠ ':'

theorem not_digit_colon_of_isBlank {c : Char} (h : isBlank c = true) :
    c.isDigit = false ∧ c ≠ ':' := by
  have hrange : c.toNat ≤ 32 ∨ 0x80 ≤ c.toNat := by
    simp only [isBlank, Bool.or_eq_true, Bool.and_eq_true, decide_eq_true_eq, beq_iff_eq] at h
    omega
  have hcolon : (':' : Char).toNat = 58 := rfl
  refine ⟨?_, ?_⟩
  · rw [Bool.eq_false_iff]
    intro hd
    simp only [Char.isDigit, Bool.and_eq_true, decide_eq_true_eq, UInt32.le_iff_toNat_le] at hd
    have h0 : 48 ≤ c.toNat := hd.1
    have h9 : c.toNat ≤ 57 := hd.2
    omega
  · rintro rfl
    omega

theorem letter_of_toLower : ∀ n < 0x80,
    (Char.ofNat n).toLower = 'a' ∨ (Char.ofNat n).toLower = 'p' →
    isBlank (Char.ofNat n) = false ∧ (Char.ofNat n).isDigit = false ∧ Char.ofNat n ≠ ':' := by
  decide

/-- A marker begins with a letter. -/
theorem Marker.letters_eq_cons (m : Marker) : ∃ c cs, m.letters = c :: cs ∧
    isBlank c = false ∧ c.isDigit = false ∧ c ≠ ':' := by
  have hspell := m.letters_spell
  cases hl : m.letters with
  | nil =>
    rw [hl] at hspell
    cases hh : m.half <;> simp [hh, Meridiem.spellings] at hspell
  | cons c cs =>
    have hfirst : c.toLower = 'a' ∨ c.toLower = 'p' := by
      rw [hl] at hspell
      cases hh : m.half <;>
        simp [hh, Meridiem.spellings] at hspell <;>
        rcases hspell with hspell | hspell <;> simp [hspell.1]
    have hplain : isPlain c.toLower = true := by
      rcases hfirst with h | h <;> rw [h] <;> decide
    have hletter := letter_of_toLower c.toNat (lt_of_isPlain_toLower hplain)
    rw [Char.ofNat_toNat] at hletter
    exact ⟨c, cs, rfl, hletter hfirst⟩

namespace ClockText

theorem endsNumber_markerChars (t : ClockText) : EndsNumber t.markerChars := by
  intro c hc
  unfold markerChars at hc
  cases hm : t.marker with
  | none => simp [hm] at hc
  | some m =>
    simp only [hm] at hc
    cases hb : m.blanks with
    | nil =>
      obtain ⟨d, ds, hl, -, hd⟩ := m.letters_eq_cons
      simp only [hb, hl, List.nil_append, List.head?_cons, Option.some.injEq] at hc
      exact hc ▸ hd
    | cons b bs =>
      simp only [hb, List.cons_append, List.head?_cons, Option.some.injEq] at hc
      have hblank := m.blanks_isBlank b (by rw [hb]; exact List.mem_cons_self)
      exact hc ▸ not_digit_colon_of_isBlank hblank

/-- The hour is cut off in front of the minutes. -/
theorem takeDigits_chars (t : ClockText) :
    takeDigits 2 t.chars = (t.hour, t.minuteChars ++ t.markerChars) := by
  refine takeDigits_run t.hour_digits ?_ ?_
  · rcases t.hour_length with h | h <;> omega
  · refine Or.inr fun c hc => ?_
    unfold minuteChars at hc
    cases hm : t.minutes with
    | none =>
      simp only [hm, List.nil_append] at hc
      exact (t.endsNumber_markerChars c hc).1
    | some p =>
      simp only [hm, List.cons_append, List.head?_cons, Option.some.injEq] at hc
      subst hc
      decide

/-- The minutes are cut off in front of the marker. -/
theorem takeMinutes_chars (t : ClockText) :
    takeMinutes (t.minuteChars ++ t.markerChars) = (t.minuteChars, t.markerChars) := by
  unfold minuteChars
  cases hm : t.minutes with
  | none =>
    cases hc : t.markerChars with
    | nil => rfl
    | cons c cs =>
      have hne := (t.endsNumber_markerChars c (by rw [hc]; rfl)).2
      simp only [List.nil_append]
      unfold takeMinutes
      split
      · rename_i heq
        exact absurd (List.cons.inj heq).1 hne
      · rfl
  | some p =>
    obtain ⟨ha, hb, -⟩ := t.minutes_digits p.1 p.2 hm
    simp [takeMinutes, ha, hb]

/-- The blanks are cut off in front of the letters of the marker. -/
theorem span_markerChars (t : ClockText) :
    t.markerChars.takeWhile isBlank = (t.marker.map (·.blanks)).getD [] ∧
    t.markerChars.dropWhile isBlank = (t.marker.map (·.letters)).getD [] := by
  unfold markerChars
  cases hm : t.marker with
  | none => exact ⟨rfl, rfl⟩
  | some m =>
    obtain ⟨c, cs, hl, hc, -⟩ := m.letters_eq_cons
    have htake : m.letters.takeWhile isBlank = [] := by simp [hl, hc]
    have hdrop : m.letters.dropWhile isBlank = m.letters := by simp [hl, hc]
    simp only [Option.map_some, Option.getD_some]
    rw [List.takeWhile_append_of_pos m.blanks_isBlank, List.dropWhile_append_of_pos m.blanks_isBlank,
      htake, hdrop]
    exact ⟨List.append_nil _, rfl⟩

/-- A clock text that stands alone is its own candidate. -/
theorem ofText_chars (t : ClockText) : Candidate.ofText t.chars =
    { hour := numeral t.hour
      minute := t.denotedMinute
      meridiem := t.marker.map (·.half)
      matched := t.chars
      after := [] } := by
  have hminute : numeral (t.minuteChars.drop 1) = t.denotedMinute := by
    unfold minuteChars denotedMinute
    cases t.minutes with
    | none => rfl
    | some p => rfl
  obtain ⟨htake, hdrop⟩ := t.span_markerChars
  unfold Candidate.ofText
  simp only [takeDigits_chars, takeMinutes_chars, htake, hdrop, hminute]
  cases hm : t.marker with
  | none => simp [marker?, beginsWith, chars, markerChars, hm]
  | some m => simp [marker?_letters, chars, markerChars, hm]

/-- Its candidate is the time that it denotes. -/
theorem time?_ofText (t : ClockText) : (Candidate.ofText t.chars).time? = some t.time := by
  rw [Candidate.time?, ofText_chars]
  simp only [hourOfDay_eq]
  have htime := TimeOfDay.ofNumbers_hour_minute t.time
  simp only [time] at htime
  rw [htime]
  rfl

end ClockText

/-! ### The characters of a clock text -/

/-- The characters of clock texts. -/
def isClockChar (c : Char) : Bool :=
  c.isDigit || c == ':' || isBlank c || ['a', 'p', 'm', '.'].contains c.toLower

theorem isClockChar_of_mem {t : ClockText} {c : Char} (h : c ∈ t.chars) : isClockChar c = true := by
  unfold isClockChar
  simp only [ClockText.chars, List.mem_append] at h
  rcases h with h | h | h
  · simp [t.hour_digits c h]
  · unfold ClockText.minuteChars at h
    split at h
    · rename_i a b hm
      obtain ⟨ha, hb, -⟩ := t.minutes_digits a b hm
      simp only [List.mem_cons, List.not_mem_nil, or_false] at h
      rcases h with rfl | rfl | rfl
      · rfl
      · simp [ha]
      · simp [hb]
    · cases h
  · unfold ClockText.markerChars at h
    split at h
    · rename_i m hm
      rcases List.mem_append.1 h with h | h
      · simp [m.blanks_isBlank c h]
      · have hmem : c.toLower ∈ m.letters.map Char.toLower := List.mem_map_of_mem h
        have hletters : ∀ half : Meridiem, ∀ word ∈ half.spellings,
            word.all (fun c => ['a', 'p', 'm', '.'].contains c) = true := by
          intro half
          cases half <;> decide
        have hin := List.all_eq_true.1 (hletters m.half _ m.letters_spell) _ hmem
        rw [hin, Bool.or_true]
    · cases h

theorem fold_plain_of_isClockChar : ∀ n < 0x80, isClockChar (Char.ofNat n) = true →
    fold (Char.ofNat n) ∉ ['y', 'w', 'k'] := by
  decide

/-- No date word ends on a character of a clock text. -/
theorem fold_of_isClockChar {c : Char} (h : isClockChar c = true) :
    fold c ∉ ['y', 'w', 'k'] := by
  by_cases hlt : c.toNat < 0x80
  · have hplain := fold_plain_of_isClockChar c.toNat hlt
    rw [Char.ofNat_toNat] at hplain
    exact hplain h
  · -- only blanks are left, and these have no letter case
    have hs : c ≠ longS := by
      rintro rfl
      exact absurd h (by decide)
    have hk : c ≠ kelvin := by
      rintro rfl
      exact absurd h (by decide)
    rw [fold_of_le (Nat.le_of_not_lt hlt) hs hk]
    intro hmem
    simp only [List.mem_cons, List.not_mem_nil, or_false] at hmem
    rcases hmem with rfl | rfl | rfl <;> exact hlt (by decide)

/-! ### Finding the mention -/

/-- CORRECT: a clock text is found as a whole and with the time that it denotes. -/
theorem find_chars (t : ClockText) : TimeMention.find t.chars =
    some { time := t.time, before := [], matched := t.chars, after := [] } := by
  have hfront : TimeMention.atFront? t.chars =
      some { time := t.time, before := [], matched := t.chars, after := [] } := by
    rw [TimeMention.atFront?, t.time?_ofText, t.ofText_chars]
    rfl
  cases hh : t.hour with
  | nil =>
    have hlen := t.hour_length
    simp [hh] at hlen
  | cons d ds =>
    have hd := t.hour_digits d (by rw [hh]; exact List.mem_cons_self)
    have hcons : t.chars = d :: (ds ++ (t.minuteChars ++ t.markerChars)) := by
      rw [ClockText.chars, hh, List.cons_append]
    rw [hcons] at hfront ⊢
    rw [TimeMention.find, TimeMention.scan, hfront]
    simp [hd]

/-- CORRECT: a mention behind characters that are no digits is the mention of the text alone. -/
theorem find_append {s : List Char} (hs : ∀ c ∈ s, c.isDigit = false) (cs : List Char) :
    TimeMention.find (s ++ cs) =
      (TimeMention.find cs).map fun m => { m with before := s ++ m.before } := by
  induction s with
  | nil => simp
  | cons c s ih =>
    have hc := hs c List.mem_cons_self
    have hrest := ih fun c hc => hs c (List.mem_cons_of_mem _ hc)
    unfold TimeMention.find at hrest ⊢
    rw [List.cons_append, TimeMention.scan]
    simp [hc, hrest, TimeMention.push, Function.comp_def]

end Agenda.Command
