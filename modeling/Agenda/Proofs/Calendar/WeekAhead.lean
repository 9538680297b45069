import Agenda.Proofs.Calendar.DayCount

/-!
The week after a date. Day numbers follow the order of the calendar, so no two dates share one, and
the weekday moves on by one with every day; hence each weekday comes exactly once in seven days.
CORRECT: `nextOn` is that date, or the present one where the calendar ends before it.

      today   Sun Mon Tue Wed Thu Fri Sat Sun        days until
      Wed                     1   2   3   4          Sunday: 4
      Wed     4   5   6   7   .   .   .   .          Wednesday: 7
-/

namespace Agenda.Calendar

namespace Weekday

theorem index_lt (w : Weekday) : w.index < 7 := by cases w <;> decide

theorem index_injective {v w : Weekday} (h : v.index = w.index) : v = w := by
  revert h
  cases v <;> cases w <;> decide

theorem index_ofIndex (n : Nat) : (ofIndex n).index = n % 7 := by
  have hweek : ∀ k < 7, (ofIndex k).index = k := by decide
  rw [← hweek (n % 7) (Nat.mod_lt n (by decide)), ofIndex, ofIndex, Nat.mod_mod]

theorem daysUntil_eq (current target : Weekday) : current.daysUntil target =
    if (7 + target.index - current.index) % 7 = 0 then 7
    else (7 + target.index - current.index) % 7 := by
  unfold daysUntil
  split
  · rename_i h
    rw [if_pos h]
  · rename_i h
    rw [if_neg h]

/-- Of the next seven days exactly one falls on a weekday. -/
theorem eq_daysUntil_iff {current target : Weekday} {n : Nat} (hpos : 1 ≤ n) (hle : n ≤ 7) :
    (current.index + n) % 7 = target.index ↔ n = current.daysUntil target := by
  have hcurrent := current.index_lt
  have htarget := target.index_lt
  rw [daysUntil_eq]
  split <;> omega

/-- The days until a weekday lead to it. -/
theorem index_add_daysUntil (current target : Weekday) :
    (current.index + current.daysUntil target) % 7 = target.index :=
  (eq_daysUntil_iff (daysUntil_pos current target) (daysUntil_le current target)).2 rfl

/-- It takes the whole week only to the weekday of today. -/
theorem daysUntil_eq_seven_iff (current target : Weekday) :
    current.daysUntil target = 7 ↔ current = target := by
  have hlead := index_add_daysUntil current target
  have hcurrent := current.index_lt
  constructor
  · intro h
    rw [h, Nat.add_mod_right, Nat.mod_eq_of_lt hcurrent] at hlead
    exact index_injective hlead
  · rintro rfl
    exact ((eq_daysUntil_iff (by decide) (by decide)).1
      (by rw [Nat.add_mod_right, Nat.mod_eq_of_lt hcurrent])).symm

end Weekday

namespace Date

/-- The order of the calendar: by years, months and days. -/
def Precedes (d e : Date) : Prop :=
  d.year < e.year ∨ d.year = e.year ∧ (d.month < e.month ∨ d.month = e.month ∧ d.day < e.day)

/-! ### Day numbers and the order of the calendar -/

/-- The days before a year do not get fewer in later years. -/
theorem daysBeforeYear_mono {past other : Int} (h : past ≤ other) :
    past * 365 + past / 4 - past / 100 + past / 400 ≤
      other * 365 + other / 4 - other / 100 + other / 400 := by
  omega

/-- A later date has a higher day number. -/
theorem Precedes.dayNumber_lt {d e : Date} (h : d.Precedes e) : d.dayNumber < e.dayNumber := by
  obtain ⟨-, ⟨hmonth, -⟩, -, hday⟩ := d.isDate
  have hfirst : 1 ≤ e.day := e.isDate.2.2.1
  rcases h with hyear | ⟨hyear, hmonths | ⟨hmonths, hdays⟩⟩
  · -- the year of `d` ends before that of `e` begins
    have hend := daysBeforeMonth_add_day_le d
    have hnext := daysBeforeYear_succ d.year
    have hmono := daysBeforeYear_mono (Int.le_sub_one_of_lt hyear)
    simp only [dayNumber]
    omega
  · -- the month of `d` ends before that of `e` begins
    have hnext := daysBeforeMonth_succ d.year hmonth
    obtain ⟨k, hk⟩ := Nat.exists_eq_add_of_le (show d.month + 1 ≤ e.month from hmonths)
    have hmono := daysBeforeMonth_le_add d.year (d.month + 1) k
    simp only [dayNumber, ← hyear, hk]
    omega
  · simp only [dayNumber, ← hyear, ← hmonths]
    omega

theorem precedes_or_eq_or_precedes (d e : Date) : d.Precedes e ∨ d = e ∨ e.Precedes d := by
  rcases Int.lt_trichotomy d.year e.year with hy | hy | hy
  · exact Or.inl (Or.inl hy)
  · rcases Nat.lt_trichotomy d.month e.month with hm | hm | hm
    · exact Or.inl (Or.inr ⟨hy, Or.inl hm⟩)
    · rcases Nat.lt_trichotomy d.day e.day with hd | hd | hd
      · exact Or.inl (Or.inr ⟨hy, Or.inr ⟨hm, hd⟩⟩)
      · refine Or.inr (Or.inl ?_)
        cases d
        cases e
        simp_all
      · exact Or.inr (Or.inr (Or.inr ⟨hy.symm, Or.inr ⟨hm.symm, hd⟩⟩))
    · exact Or.inr (Or.inr (Or.inr ⟨hy.symm, Or.inl hm⟩))
  · exact Or.inr (Or.inr (Or.inl hy))

/-- Day numbers are in the order of the calendar. -/
theorem precedes_iff (d e : Date) : d.Precedes e ↔ d.dayNumber < e.dayNumber := by
  refine ⟨Precedes.dayNumber_lt, fun h => ?_⟩
  rcases precedes_or_eq_or_precedes d e with hlt | rfl | hgt
  · exact hlt
  · omega
  · have := hgt.dayNumber_lt
    omega

/-- No two dates share a day number. -/
theorem dayNumber_injective {d e : Date} (h : d.dayNumber = e.dayNumber) : d = e := by
  rcases precedes_or_eq_or_precedes d e with hlt | heq | hgt
  · have := hlt.dayNumber_lt
    omega
  · exact heq
  · have := hgt.dayNumber_lt
    omega

/-- Nothing comes after the end of the calendar, and nothing else is missing. -/
theorem later?_eq_none_iff {n : Nat} {d : Date} :
    later? n d = none ↔ last.dayNumber < d.dayNumber + n := by
  refine ⟨later?_eq_none, fun hpast => ?_⟩
  rw [Option.eq_none_iff_forall_ne_some]
  intro e he
  have hnumber := dayNumber_later? he
  have hlast := dayNumber_le_last e
  omega

/-! ### Weekdays -/

theorem index_weekday (d : Date) : (d.weekday.index : Int) = d.dayNumber % 7 := by
  rw [weekday, Weekday.index_ofIndex]
  omega

/-- The weekday moves on by one with every day. -/
theorem index_weekday_later? {n : Nat} {d e : Date} (h : later? n d = some e) :
    e.weekday.index = (d.weekday.index + n) % 7 := by
  have hd := index_weekday d
  have he := index_weekday e
  rw [dayNumber_later? h] at he
  omega

/-- A date falls on a weekday and lies after another one, at most seven days on. -/
structure IsComing (today : Date) (w : Weekday) (d : Date) : Prop where
  after : today.Precedes d
  within : ∃ n ≤ 7, later? n today = some d
  weekday : d.weekday = w

/-- In the week ahead a weekday comes where `daysUntil` leads, and nowhere else. -/
theorem isComing_iff (today : Date) (w : Weekday) (d : Date) :
    today.IsComing w d ↔ later? (today.weekday.daysUntil w) today = some d := by
  constructor
  · rintro ⟨hafter, ⟨n, hle, hlater⟩, rfl⟩
    have hpos : 1 ≤ n := by
      have := (precedes_iff today d).1 hafter
      have := dayNumber_later? hlater
      omega
    have hindex := (index_weekday_later? hlater).symm
    rw [← (Weekday.eq_daysUntil_iff hpos hle).1 hindex]
    exact hlater
  · intro h
    have hpos := Weekday.daysUntil_pos today.weekday w
    have hindex := index_weekday_later? h
    rw [Weekday.index_add_daysUntil] at hindex
    refine ⟨?_, ⟨_, Weekday.daysUntil_le today.weekday w, h⟩, Weekday.index_injective hindex⟩
    rw [precedes_iff, dayNumber_later? h]
    omega

/--
CORRECT: if a weekday comes in the week after a date, then `nextOn` is the one date on which it
does, seven days on if it is the weekday of the date itself; if the calendar ends before, `nextOn`
is the date. The days until the weekday are a difference that is never negative, from one to seven.
-/
theorem nextOn_is_the_coming_one (today : Date) (w : Weekday) :
    (∀ d, today.IsComing w d → today.nextOn w = d) ∧
    (∀ d, today.IsComing w d ↔ later? (today.weekday.daysUntil w) today = some d) ∧
    ((∀ d, ¬ today.IsComing w d) ↔ last.dayNumber < today.dayNumber + today.weekday.daysUntil w) ∧
    ((∀ d, ¬ today.IsComing w d) → today.nextOn w = today) ∧
    today.weekday.index ≤ 7 + w.index ∧
    1 ≤ today.weekday.daysUntil w ∧ today.weekday.daysUntil w ≤ 7 ∧
    (today.weekday.daysUntil w = 7 ↔ today.weekday = w) := by
  have hnone : (∀ d, ¬ today.IsComing w d) ↔ later? (today.weekday.daysUntil w) today = none := by
    simp only [isComing_iff, Option.eq_none_iff_forall_ne_some, ne_eq]
  refine ⟨fun d hd => ?_, isComing_iff today w, hnone.trans later?_eq_none_iff, fun h => ?_, ?_,
    Weekday.daysUntil_pos today.weekday w, Weekday.daysUntil_le today.weekday w,
    Weekday.daysUntil_eq_seven_iff today.weekday w⟩
  · rw [nextOn, later, (isComing_iff today w d).1 hd, Option.getD_some]
  · rw [nextOn, later, hnone.1 h, Option.getD_none]
  · have hindex := today.weekday.index_lt
    omega

/-- A week after a Friday there is another one; after the last day of the calendar there is none. -/
theorem nextOn_is_the_coming_one_friday :
    IsComing { year := 2024, month := 1, day := 5 } .friday
      { year := 2024, month := 1, day := 12 } ∧
    nextOn .friday { year := 2024, month := 1, day := 5 } =
      { year := 2024, month := 1, day := 12 } ∧
    (∀ d, ¬ last.IsComing .friday d) ∧ last.nextOn .friday = last := by
  have hcoming : IsComing { year := 2024, month := 1, day := 5 } .friday
      { year := 2024, month := 1, day := 12 } := (isComing_iff _ _ _).2 (by decide)
  have hnone : ∀ d, ¬ last.IsComing .friday d :=
    (nextOn_is_the_coming_one last .friday).2.2.1.2 (by decide)
  exact ⟨hcoming, (nextOn_is_the_coming_one _ .friday).1 _ hcoming, hnone,
    (nextOn_is_the_coming_one last .friday).2.2.2.1 hnone⟩

end Date
end Agenda.Calendar
