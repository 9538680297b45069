import Agenda.Calendar.Date

/-!
Going on by days, measured in day numbers. One step of the calendar adds exactly one to the day
number, only the last date has no next one, and so going on by `n` days either adds `n` to the day
number or would pass the last date; in the second case `later` stays where it is.
-/

namespace Agenda.Calendar
namespace Date

/-- The last date of the calendar. -/
def last : Date where
  year := 262142
  month := 12
  day := 31

theorem ofNumbers?_eq_some {year : Int} {month day : Nat} {d : Date}
    (h : ofNumbers? year month day = some d) :
    d.year = year ∧ d.month = month ∧ d.day = day ∧ IsDate year month day := by
  unfold ofNumbers? at h
  split at h
  · rename_i hd
    cases h
    exact ⟨rfl, rfl, rfl, hd⟩
  · cases h

theorem ofNumbers?_eq_none_iff {year : Int} {month day : Nat} :
    ofNumbers? year month day = none ↔ ¬ IsDate year month day := by
  unfold ofNumbers?
  split <;> simp_all

/-! ### One day on -/

/-- A month has a first day. -/
theorem one_le_daysInMonth (year : Int) (month : Nat) : 1 ≤ daysInMonth year month := by
  unfold daysInMonth
  split <;> (try split) <;> omega

/-- The days before a month and those of the month are the days before the next one. -/
theorem daysBeforeMonth_succ (year : Int) {month : Nat} (h : 1 ≤ month) :
    daysBeforeMonth year (month + 1) = daysBeforeMonth year month + daysInMonth year month := by
  obtain ⟨m, rfl⟩ := Nat.exists_eq_add_of_le' h
  rfl

/-- The number of days in a year. -/
def daysInYear (year : Int) : Nat := if isLeapYear year then 366 else 365

/-- The days of a year before its last month, and those of the last month. -/
theorem daysBeforeMonth_twelve (year : Int) : daysBeforeMonth year 12 + 31 = daysInYear year := by
  cases h : isLeapYear year <;> simp [daysBeforeMonth, daysInMonth, daysInYear, h]

/-- The days before the first of January after a year are those before it and those of the year. -/
theorem daysBeforeYear_succ (year : Int) :
    year * 365 + year / 4 - year / 100 + year / 400 =
      (year - 1) * 365 + (year - 1) / 4 - (year - 1) / 100 + (year - 1) / 400 +
        daysInYear year := by
  unfold daysInYear
  cases h : isLeapYear year <;>
    simp only [isLeapYear, Bool.and_eq_true, Bool.or_eq_true, Bool.and_eq_false_iff,
      Bool.or_eq_false_iff, beq_iff_eq, bne_iff_ne, beq_eq_false_iff_ne, bne_eq_false_iff_eq] at h <;>
    simp only [Bool.false_eq_true, ite_false, ite_true] <;> omega

/-- The days before a month do not get fewer in later months. -/
theorem daysBeforeMonth_le_add (year : Int) (month n : Nat) :
    daysBeforeMonth year month ≤ daysBeforeMonth year (month + n) := by
  induction n with
  | zero => exact Nat.le_refl _
  | succ n ih =>
    rcases Nat.eq_zero_or_pos (month + n) with h0 | hpos
    · obtain ⟨rfl, rfl⟩ := Nat.add_eq_zero_iff.1 h0
      exact Nat.le_refl _
    · rw [← Nat.add_assoc, daysBeforeMonth_succ year hpos]
      omega

/-- No day of a year comes after its last one. -/
theorem daysBeforeMonth_add_day_le (d : Date) :
    daysBeforeMonth d.year d.month + d.day ≤ daysInYear d.year := by
  obtain ⟨-, ⟨hm1, hm2⟩, -, hd2⟩ := d.isDate
  obtain ⟨n, hn⟩ := Nat.exists_eq_add_of_le hm2
  have h1 := daysBeforeMonth_succ d.year hm1
  have h2 := daysBeforeMonth_le_add d.year (d.month + 1) n
  have h3 : d.month + 1 + n = 12 + 1 := by omega
  have h4 : daysBeforeMonth d.year (12 + 1) = daysBeforeMonth d.year 12 + 31 := rfl
  rw [h3, h4, daysBeforeMonth_twelve] at h2
  omega

/-- The next date is the next day of the month, else the first of the next month or year. -/
theorem next?_cases (d : Date) :
    (∃ e, d.next? = some e ∧ e.year = d.year ∧ e.month = d.month ∧ e.day = d.day + 1) ∨
    (∃ e, d.next? = some e ∧ e.year = d.year ∧ e.month = d.month + 1 ∧ e.day = 1 ∧
      d.day = daysInMonth d.year d.month) ∨
    (∃ e, d.next? = some e ∧ e.year = d.year + 1 ∧ e.month = 1 ∧ e.day = 1 ∧ d.month = 12 ∧
      d.day = 31) ∨
    (d.next? = none ∧ d = last) := by
  obtain ⟨⟨hy1, hy2⟩, ⟨hm1, hm2⟩, hd1, hd2⟩ := d.isDate
  have h12 : ∀ year, daysInMonth year 12 = 31 := fun _ => rfl
  unfold next?
  cases h1 : ofNumbers? d.year d.month (d.day + 1) with
  | some e =>
    obtain ⟨he1, he2, he3, -⟩ := ofNumbers?_eq_some h1
    exact Or.inl ⟨e, rfl, he1, he2, he3⟩
  | none =>
    rw [ofNumbers?_eq_none_iff] at h1
    have hday : d.day = daysInMonth d.year d.month := by
      unfold IsDate at h1
      omega
    cases h2 : ofNumbers? d.year (d.month + 1) 1 with
    | some e =>
      obtain ⟨he1, he2, he3, -⟩ := ofNumbers?_eq_some h2
      exact Or.inr (Or.inl ⟨e, rfl, he1, he2, he3, hday⟩)
    | none =>
      rw [ofNumbers?_eq_none_iff] at h2
      have hmonth : d.month = 12 := by
        have := one_le_daysInMonth d.year (d.month + 1)
        unfold IsDate at h2
        omega
      have hday31 : d.day = 31 := by rw [hday, hmonth, h12]
      cases h3 : ofNumbers? (d.year + 1) 1 1 with
      | some e =>
        obtain ⟨he1, he2, he3, -⟩ := ofNumbers?_eq_some h3
        exact Or.inr (Or.inr (Or.inl ⟨e, rfl, he1, he2, he3, hmonth, hday31⟩))
      | none =>
        rw [ofNumbers?_eq_none_iff] at h3
        have hyear : d.year = 262142 := by
          have := one_le_daysInMonth (d.year + 1) 1
          unfold IsDate at h3
          omega
        refine Or.inr (Or.inr (Or.inr ⟨rfl, ?_⟩))
        cases d
        simp_all [last]

/-- The next date has the next day number. -/
theorem dayNumber_next? {d e : Date} (h : d.next? = some e) : e.dayNumber = d.dayNumber + 1 := by
  rcases next?_cases d with ⟨e', h', hy, hm, hd⟩ | ⟨e', h', hy, hm, hd, hday⟩ |
    ⟨e', h', hy, hm, hd, hmonth, hday⟩ | ⟨h', -⟩
  · cases h.symm.trans h'
    simp only [dayNumber, hy, hm, hd]
    omega
  · cases h.symm.trans h'
    have hs := daysBeforeMonth_succ d.year d.isDate.2.1.1
    simp only [dayNumber, hy, hm, hd, hs, hday]
    omega
  · cases h.symm.trans h'
    have hl := daysBeforeMonth_twelve d.year
    have hp := daysBeforeYear_succ d.year
    have h1 : daysBeforeMonth (d.year + 1) 1 = 0 := rfl
    simp only [dayNumber, hy, hm, hd, hmonth, hday, h1, Int.add_sub_cancel]
    omega
  · cases h.symm.trans h'

/-- Only the last date has no next one. -/
theorem next?_eq_none {d : Date} (h : d.next? = none) : d = last := by
  rcases next?_cases d with ⟨e, h', -⟩ | ⟨e, h', -⟩ | ⟨e, h', -⟩ | ⟨-, hd⟩
  · cases h.symm.trans h'
  · cases h.symm.trans h'
  · cases h.symm.trans h'
  · exact hd

/-! ### Several days on -/

/-- Going on by days adds their number to the day number. -/
theorem dayNumber_later? {n : Nat} {d e : Date} (h : later? n d = some e) :
    e.dayNumber = d.dayNumber + n := by
  induction n generalizing d with
  | zero =>
    cases h
    simp
  | succ n ih =>
    obtain ⟨d', hd', he⟩ := Option.bind_eq_some_iff.1 h
    rw [ih he, dayNumber_next? hd']
    push_cast
    omega

/-- Days that lead out of the calendar lead past its last date. -/
theorem later?_eq_none {n : Nat} {d : Date} (h : later? n d = none) :
    last.dayNumber < d.dayNumber + n := by
  induction n generalizing d with
  | zero => cases h
  | succ n ih =>
    rw [later?] at h
    cases hd : d.next? with
    | none =>
      rw [next?_eq_none hd]
      push_cast
      omega
    | some d' =>
      rw [hd] at h
      have hn := ih h
      rw [dayNumber_next? hd] at hn
      push_cast
      omega

/-- No date lies past the last one. -/
theorem dayNumber_le_last (d : Date) : d.dayNumber ≤ last.dayNumber := by
  have hday := daysBeforeMonth_add_day_le d
  have hyear := daysBeforeYear_succ d.year
  have hle : d.year ≤ 262142 := d.isDate.1.2
  have hlast : last.dayNumber = 95745399 := by decide
  rw [hlast]
  unfold dayNumber
  simp only
  rcases Int.lt_or_eq_of_le hle with hlt | heq <;> omega

/-- CORRECT: `later` adds days as long as the calendar has the date, else it stays where it is. -/
theorem later_cases (n : Nat) (d : Date) :
    (d.dayNumber + n ≤ last.dayNumber ∧ (d.later n).dayNumber = d.dayNumber + n) ∨
    (last.dayNumber < d.dayNumber + n ∧ d.later n = d) := by
  cases h : later? n d with
  | none => exact Or.inr ⟨later?_eq_none h, by rw [later, h]; rfl⟩
  | some e =>
    have he := dayNumber_later? h
    refine Or.inl ⟨?_, by rw [later, h]; exact he⟩
    rw [← he]
    exact dayNumber_le_last e

end Date
end Agenda.Calendar
