import Agenda.Calendar.DateText
import Agenda.Calendar.TimeOfDay

/-!
Written dates and times are read back. A number is read up to the first character that is no digit,
so each part of a written date ends where its mark begins, and the parts come back one after the
other. Times have one spelling only, dates have several; CORRECT for dates is that the written one
is among them, for every year of the calendar.

      0 ≤ year ≤ 9999      four digits             2024-01-02
      other years          sign, four or more      -0001-12-31  +10000-01-01
-/

namespace Agenda.Calendar
open Agenda.Text

/-- A digit is not a blank, and no sign either. -/
theorem not_blank_of_isDigit {c : Char} (h : c.isDigit = true) :
    isBlank c = false ∧ c ≠ '-' ∧ c ≠ '+' := by
  have hrange := Char.isDigit_iff_toNat.1 h
  have hzero : ('0' : Char).toNat = 48 := rfl
  have hnine : ('9' : Char).toNat = 57 := rfl
  refine ⟨?_, ?_, ?_⟩
  · simp only [isBlank, Bool.or_eq_false_iff, Bool.and_eq_false_iff, decide_eq_false_iff_not,
      beq_eq_false_iff_ne]
    omega
  · rintro rfl
    exact absurd hrange.1 (by decide)
  · rintro rfl
    exact absurd hrange.1 (by decide)

/-- There is nothing to skip in front of a digit. -/
theorem skipBlanks_of_isDigit {c : Char} (h : c.isDigit = true) (cs : List Char) :
    skipBlanks (c :: cs) = c :: cs := by
  rw [skipBlanks, List.dropWhile_cons, (not_blank_of_isDigit h).1]
  rfl

/-- A number is read up to its width or up to the first character that is no digit. -/
theorem readNumber_run {width : Nat} {ds rest : List Char} (hne : ds ≠ [])
    (hd : ∀ c ∈ ds, c.isDigit = true) (hle : ds.length ≤ width)
    (hstop : ds.length = width ∨ ∀ c, rest.head? = some c → c.isDigit = false) :
    readNumber width (ds ++ rest) = .ok (numeral ds, rest) := by
  have hrun := takeDigits_run hd hle hstop
  cases ds with
  | nil => exact absurd rfl hne
  | cons d ds =>
    rw [List.cons_append] at hrun ⊢
    simp only [readNumber, hd d List.mem_cons_self, if_true, hrun]

/-- A field of two digits is read. -/
theorem readField_twoDigits {low high n : Nat} (hlow : low ≤ n) (hhigh : n ≤ high) (h : n < 100)
    (rest : List Char) : readField low high (twoDigits n ++ rest) = .ok (n, rest) := by
  have hdigits : ∀ c ∈ twoDigits n, c.isDigit = true :=
    List.all_eq_true.1 (all_isDigit_twoDigits n h)
  have hnumber : readNumber 2 (twoDigits n ++ rest) = .ok (n, rest) := by
    have hne : twoDigits n ≠ [] := List.cons_ne_nil _ _
    rw [readNumber_run hne hdigits (Nat.le_refl 2) (Or.inl rfl), numeral_twoDigits n h]
  have hskip : skipBlanks (twoDigits n ++ rest) = twoDigits n ++ rest :=
    skipBlanks_of_isDigit (hdigits _ List.mem_cons_self) _
  simp only [readField, hskip, hnumber, bind, Except.bind]
  rw [if_pos ⟨hlow, hhigh⟩]

/-- A year within 32 bits is read, in front of a character that is no digit. -/
theorem readYear_yearChars {year : Int} (hlow : -2147483648 ≤ year) (hhigh : year ≤ 2147483647)
    {rest : List Char} (hstop : ∀ c, rest.head? = some c → c.isDigit = false) :
    readYear (yearChars year ++ rest) = .ok (year, rest) := by
  have hdigits : ∀ n, ∀ c ∈ padded 4 n, c.isDigit = true := fun n c => isDigit_of_mem_padded
  have hne : ∀ n, padded 4 n ≠ [] := by
    intro n
    obtain ⟨d, ds, h, -⟩ := padded_eq_cons 4 n
    rw [h]
    exact List.cons_ne_nil d ds
  -- behind a sign as many digits are taken as there are
  have hsigned : ∀ n, readNumber (padded 4 n ++ rest).length (padded 4 n ++ rest) =
      .ok (n, rest) := by
    intro n
    rw [readNumber_run (hne n) (hdigits n) (by simp) (Or.inr hstop), numeral_padded]
  unfold yearChars readYear
  by_cases hplain : 0 ≤ year ∧ year ≤ 9999
  · obtain ⟨d, ds, hcons, hd⟩ := padded_eq_cons 4 year.toNat
    obtain ⟨-, hminus, hplus⟩ := not_blank_of_isDigit hd
    have hlength : (padded 4 year.toNat).length = 4 :=
      length_padded ((Nat.length_toDigits_le_iff (by decide) (by decide)).2 (by omega))
    have hread : readNumber 4 (padded 4 year.toNat ++ rest) = .ok (year.toNat, rest) := by
      rw [readNumber_run (hne _) (hdigits _) (Nat.le_of_eq hlength) (Or.inl hlength),
        numeral_padded]
    rw [if_pos hplain]
    rw [hcons, List.cons_append] at hread ⊢
    rw [skipBlanks_of_isDigit hd]
    split
    · rename_i heq
      exact absurd (List.cons.inj heq).1 hminus
    · rename_i heq
      exact absurd (List.cons.inj heq).1 hplus
    · simp only [hread, Except.map, bind, Except.bind]
      rw [if_pos (by omega)]
      simp only [Int.toNat_of_nonneg hplain.1]
  · rw [if_neg hplain]
    by_cases hneg : year < 0
    · have hskip : skipBlanks ('-' :: padded 4 year.natAbs ++ rest) =
          '-' :: (padded 4 year.natAbs ++ rest) := rfl
      rw [if_pos hneg, hskip]
      simp only [hsigned, Except.map, bind, Except.bind]
      rw [if_pos (by omega)]
      simp only [Int.ofNat_natAbs_of_nonpos (Int.le_of_lt hneg), Int.neg_neg]
    · have hskip : skipBlanks ('+' :: padded 4 year.natAbs ++ rest) =
          '+' :: (padded 4 year.natAbs ++ rest) := rfl
      rw [if_neg hneg, hskip]
      simp only [hsigned, Except.map, bind, Except.bind]
      rw [if_pos (by omega)]
      simp only [Int.natAbs_of_nonneg (Int.not_lt.1 hneg)]

namespace Date

theorem day_le (d : Date) : d.day ≤ 31 := by
  have hmonth : daysInMonth d.year d.month ≤ 31 := by
    unfold daysInMonth
    split
    · split <;> decide
    all_goals decide
  exact Nat.le_trans d.isDate.2.2.2 hmonth

/-- CORRECT: a written date is read back, whatever its year. -/
theorem ofText_text (d : Date) : ofText d.text = .ok d := by
  obtain ⟨⟨hy1, hy2⟩, ⟨hm1, hm2⟩, hd1, -⟩ := d.isDate
  have hday := d.day_le
  have hmark : ∀ cs, ∀ c, ('-' :: cs).head? = some c → c.isDigit = false := by
    rintro cs c h
    cases h
    rfl
  have hgap : ∀ cs, skipBlanks ('-' :: cs) = '-' :: cs := fun cs => rfl
  have hyear : readYear d.chars =
      .ok (d.year, '-' :: (twoDigits d.month ++ '-' :: twoDigits d.day)) := by
    rw [chars, List.append_assoc, List.cons_append]
    exact readYear_yearChars (by omega) (by omega) (hmark _)
  have hmonth : readField 1 12 (twoDigits d.month ++ '-' :: twoDigits d.day) =
      .ok (d.month, '-' :: twoDigits d.day) := readField_twoDigits hm1 hm2 (by omega) _
  have hlast : readField 1 31 (twoDigits d.day) = .ok (d.day, []) := by
    have h := readField_twoDigits hd1 hday (by omega) []
    rwa [List.append_nil] at h
  have hread : readDay skipBlanks d.chars = .ok ((d.year, d.month, d.day), []) := by
    simp only [readDay, hyear, hmonth, hlast, hgap, readMark, if_true, bind, Except.bind]
  have hparts : ofParts (d.year, d.month, d.day) = .ok d := by
    simp [ofParts, ofNumbers?, d.isDate]
  simp only [ofText, ofChars, text, String.toList_ofList, hread, bind, Except.bind]
  exact hparts

end Date

namespace TimeOfDay

/-- The number of two digits, by their code points. -/
theorem numeral_pair (a b : Char) :
    numeral [a, b] = 10 * (a.toNat - 48) + (b.toNat - 48) := by
  have hzero : ('0' : Char).toNat = 48 := rfl
  rw [numeral, Nat.ofDigitChars_cons, Nat.ofDigitChars_cons, Nat.ofDigitChars_nil, hzero]
  omega

/-- Two digits are the two digits of their number. -/
theorem twoDigits_numeral {a b : Char} (ha : a.isDigit = true) (hb : b.isDigit = true) :
    twoDigits (numeral [a, b]) = [a, b] := by
  have hchar : ∀ k < 10, Nat.digitChar k = Char.ofNat (48 + k) := by decide
  have hdigit : ∀ c : Char, c.isDigit = true →
      c.toNat - 48 < 10 ∧ Nat.digitChar (c.toNat - 48) = c := by
    intro c hc
    have hrange := Char.isDigit_iff_toNat.1 hc
    have hzero : ('0' : Char).toNat = 48 := rfl
    have hnine : ('9' : Char).toNat = 57 := rfl
    have hlt : c.toNat - 48 < 10 := by omega
    refine ⟨hlt, ?_⟩
    rw [hchar _ hlt, Nat.add_sub_cancel' (by omega), Char.ofNat_toNat]
  obtain ⟨ha10, ha⟩ := hdigit a ha
  obtain ⟨hb10, hb⟩ := hdigit b hb
  have htens : (10 * (a.toNat - 48) + (b.toNat - 48)) / 10 = a.toNat - 48 := by omega
  have hones : (10 * (a.toNat - 48) + (b.toNat - 48)) % 10 = b.toNat - 48 := by omega
  rw [twoDigits, numeral_pair, htens, hones, ha, hb]

theorem hour_minute_of_ofNumbers {hour minute : Nat} {t : TimeOfDay}
    (h : ofNumbers hour minute = .ok t) : t.hour = hour ∧ t.minute = minute := by
  unfold ofNumbers at h
  split at h
  · split at h
    · cases h
      exact ⟨rfl, rfl⟩
    · cases h
  · cases h

/-- A text is read as a time iff it is the text of that time. -/
theorem ofText_eq_ok_iff (s : String) (t : TimeOfDay) : ofText s = .ok t ↔ s = t.text := by
  constructor
  · intro h
    unfold ofText at h
    split at h
    · rename_i a b c d hs
      split at h
      · rename_i hdigits
        simp only [List.all_cons, List.all_nil, Bool.and_true, Bool.and_eq_true] at hdigits
        obtain ⟨ha, hb, hc, hd⟩ := hdigits
        obtain ⟨hhour, hminute⟩ := hour_minute_of_ofNumbers h
        rw [text, chars, hhour, hminute, twoDigits_numeral ha hb, twoDigits_numeral hc hd,
          ← String.toList_inj, hs, String.toList_ofList]
        rfl
      · cases h
    · cases h
  · rintro rfl
    exact ofText_text t

end TimeOfDay

end Agenda.Calendar
