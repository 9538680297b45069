import Agenda.Proofs.Calendar.WeekAhead
import Agenda.Proofs.Command.AnyCase
import Agenda.Proofs.Command.Totality

/-!
Which date word decides when a text has several. The words can be tried one after the other, the
weekdays last and in the order of the week, with every word that is found overwriting the date and
the cue together; what is left in the end is what `resolve` gives. CORRECT: the cue is the last of
the weekdays that stand in the lower-cased text, else `tomorrow` before `next week`, and the date
goes with it: on or after today, within a week, and on today only without a word or where the
calendar ends.

    text                            cue         from Monday, 2024-01-01
    saturday or tuesday             saturday    2024-01-06
    on tuesday, not tomorrow        tuesday     2024-01-02
    next week, or tomorrow          tomorrow    2024-01-02
-/

namespace Agenda.Command
open Agenda.Calendar Agenda.Text

/-! ### Trying word after word -/

/-- The date and the cue after a weekday has been tried: if it is found, it overwrites both. -/
def overwrite (lower : List Char) (today : Date) (found : Date × Cue) (day : Weekday) :
    Date × Cue :=
  if occurs day.name.toList lower then (today.nextOn day, .weekday day) else found

/-- The date and the cue before any weekday is tried. -/
def withoutWeekday (lower : List Char) (today : Date) : Date × Cue :=
  if occurs "tomorrow".toList lower then (today.later 1, .tomorrow)
  else if occurs "next week".toList lower then (today.later 7, .nextWeek)
  else (today, .today)

/-- The date and the cue after all words have been tried. -/
def overwritten (lower : List Char) (today : Date) : Date × Cue :=
  Weekday.all.foldl (overwrite lower today) (withoutWeekday lower today)

/-- The last weekday that is found stands in the end. -/
theorem foldl_overwrite (lower : List Char) (today : Date) (found : Date × Cue)
    (days : List Weekday) :
    days.foldl (overwrite lower today) found =
      ((days.filter fun day => occurs day.name.toList lower).getLast?.map fun day =>
        (today.nextOn day, Cue.weekday day)).getD found := by
  -- from the right, since the last weekday has the last word
  induction days using List.reverseRecOn with
  | nil => rfl
  | append_singleton days day ih =>
    rw [List.foldl_append, List.foldl_cons, List.foldl_nil, ih, List.filter_append, overwrite]
    by_cases h : occurs day.name.toList lower = true
    · simp [h]
    · simp [h]

/-- Date and cue have been overwritten together. -/
theorem overwritten_eq (lower : List Char) (today : Date) :
    overwritten lower today = ((Cue.ofLower lower).date today, Cue.ofLower lower) := by
  have hfold := foldl_overwrite lower today (withoutWeekday lower today) Weekday.all
  rw [← Cue.weekdaysIn] at hfold
  rw [overwritten, hfold, Cue.ofLower]
  cases (Cue.weekdaysIn lower).getLast? with
  | some day => rfl
  | none =>
    rw [Option.map_none, Option.getD_none, withoutWeekday]
    split
    · rfl
    · split <;> rfl

/-! ### The word that decides -/

/-- A cue goes before all others whose words stand in a lower-cased text. -/
inductive Decides (lower : List Char) : Cue → Prop where
  | weekday {day : Weekday} (stands : day.name.toList <:+: lower)
      (last : ∀ other : Weekday, other.name.toList <:+: lower → other.index ≤ day.index) :
      Decides lower (.weekday day)
  | tomorrow (noDay : ∀ day : Weekday, ¬ day.name.toList <:+: lower)
      (stands : "tomorrow".toList <:+: lower) : Decides lower .tomorrow
  | nextWeek (noDay : ∀ day : Weekday, ¬ day.name.toList <:+: lower)
      (notTomorrow : ¬ "tomorrow".toList <:+: lower)
      (stands : "next week".toList <:+: lower) : Decides lower .nextWeek
  | today (noDay : ∀ day : Weekday, ¬ day.name.toList <:+: lower)
      (notTomorrow : ¬ "tomorrow".toList <:+: lower)
      (notNextWeek : ¬ "next week".toList <:+: lower) : Decides lower .today

/-- No two cues decide on one text. -/
theorem Decides.unique {lower : List Char} {cue other : Cue} (h : Decides lower cue)
    (hother : Decides lower other) : cue = other := by
  cases h with
  | @weekday day stands last =>
    cases hother with
    | @weekday other stands' last' =>
      rw [Weekday.index_injective (Nat.le_antisymm (last' day stands) (last other stands'))]
    | tomorrow noDay => exact absurd stands (noDay day)
    | nextWeek noDay => exact absurd stands (noDay day)
    | today noDay => exact absurd stands (noDay day)
  | tomorrow noDay stands =>
    cases hother with
    | weekday stands' => exact absurd stands' (noDay _)
    | tomorrow => rfl
    | nextWeek _ notTomorrow => exact absurd stands notTomorrow
    | today _ notTomorrow => exact absurd stands notTomorrow
  | nextWeek noDay notTomorrow stands =>
    cases hother with
    | weekday stands' => exact absurd stands' (noDay _)
    | tomorrow _ stands' => exact absurd stands' notTomorrow
    | nextWeek => rfl
    | today _ _ notNextWeek => exact absurd stands notNextWeek
  | today noDay notTomorrow notNextWeek =>
    cases hother with
    | weekday stands' => exact absurd stands' (noDay _)
    | tomorrow _ stands' => exact absurd stands' notTomorrow
    | nextWeek _ _ stands' => exact absurd stands' notNextWeek
    | today => rfl

/-- The weekdays that are found are in the order of the week. -/
theorem pairwise_weekdaysIn (lower : List Char) :
    (Cue.weekdaysIn lower).Pairwise fun day other => day.index < other.index :=
  List.Pairwise.filter _ (by decide)

theorem mem_weekdaysIn_iff_stands {day : Weekday} {lower : List Char} :
    day ∈ Cue.weekdaysIn lower ↔ day.name.toList <:+: lower := by
  rw [mem_weekdaysIn, occurs_iff]

/-- The last of them stands in the text, and no later one does. -/
theorem index_le_of_getLast?_weekdaysIn {lower : List Char} {day other : Weekday}
    (h : (Cue.weekdaysIn lower).getLast? = some day) (hother : other ∈ Cue.weekdaysIn lower) :
    other.index ≤ day.index := by
  obtain ⟨init, hinit⟩ := List.getLast?_eq_some_iff.1 h
  have horder := pairwise_weekdaysIn lower
  rw [hinit] at hother horder
  rcases List.mem_append.1 hother with hmem | hmem
  · exact Nat.le_of_lt ((List.pairwise_append.1 horder).2.2 other hmem day (by simp))
  · rw [List.mem_singleton.1 hmem]

theorem decides_ofLower (lower : List Char) : Decides lower (Cue.ofLower lower) := by
  unfold Cue.ofLower
  cases h : (Cue.weekdaysIn lower).getLast? with
  | some day =>
    refine .weekday (mem_weekdaysIn_iff_stands.1 (List.mem_of_getLast? h)) fun other hother => ?_
    exact index_le_of_getLast?_weekdaysIn h (mem_weekdaysIn_iff_stands.2 hother)
  | none =>
    have hnone : ∀ day : Weekday, ¬ day.name.toList <:+: lower := by
      intro day hday
      rw [← mem_weekdaysIn_iff_stands, List.getLast?_eq_none_iff.1 h] at hday
      cases hday
    simp only [occurs_iff]
    split
    · exact .tomorrow hnone ‹_›
    · split
      · exact .nextWeek hnone ‹_› ‹_›
      · exact .today hnone ‹_› ‹_›

/-- The cue of a lower-cased text is the one that decides. -/
theorem ofLower_eq_iff {lower : List Char} {cue : Cue} :
    Cue.ofLower lower = cue ↔ Decides lower cue := by
  refine ⟨?_, (decides_ofLower lower).unique⟩
  rintro rfl
  exact decides_ofLower lower

/-! ### The date that goes with it -/

/-- A date is the one that a cue stands for on some day. -/
structure GoesWith (today date : Date) (cue : Cue) : Prop where
  notBefore : ¬ date.Precedes today
  within : ∃ n ≤ 7, Date.later? n today = some date
  eq_today_iff : date = today ↔
    cue = .today ∨ Date.last.dayNumber < today.dayNumber + cue.shift today
  tomorrow : cue = .tomorrow → date ≠ today → Date.later? 1 today = some date
  nextWeek : cue = .nextWeek → date ≠ today → Date.later? 7 today = some date
  weekday : ∀ day, cue = .weekday day → date ≠ today → today.IsComing day date

theorem Cue.shift_le (today : Date) (cue : Cue) : cue.shift today ≤ 7 := by
  cases cue with
  | today => exact Nat.zero_le 7
  | tomorrow => exact Nat.le_of_lt (by decide : 1 < 7)
  | nextWeek => exact Nat.le_refl 7
  | weekday day => exact Weekday.daysUntil_le today.weekday day

theorem Cue.shift_eq_zero_iff (today : Date) (cue : Cue) : cue.shift today = 0 ↔ cue = .today := by
  cases cue with
  | today => simp [Cue.shift]
  | tomorrow => simp [Cue.shift]
  | nextWeek => simp [Cue.shift]
  | weekday day =>
    have hpos := Weekday.daysUntil_pos today.weekday day
    simpa [Cue.shift] using Nat.ne_of_gt hpos

/-- The date of every cue goes with it. -/
theorem goesWith_date (today : Date) (cue : Cue) : GoesWith today (cue.date today) cue := by
  have hshift := cue.shift_le today
  have hdate := date_eq_later_shift today cue
  cases h : Date.later? (cue.shift today) today with
  | some date =>
    have hnumber := Date.dayNumber_later? h
    have hlast := Date.dayNumber_le_last date
    rw [Date.later, h, Option.getD_some] at hdate
    rw [hdate]
    refine ⟨?_, ⟨_, hshift, h⟩, ⟨?_, ?_⟩, ?_, ?_, ?_⟩
    · rw [Date.precedes_iff]
      omega
    · rintro rfl
      refine Or.inl ((Cue.shift_eq_zero_iff date cue).1 ?_)
      omega
    · rintro (hcue | hpast)
      · rw [(Cue.shift_eq_zero_iff today cue).2 hcue] at hnumber
        exact Date.dayNumber_injective (by omega)
      · omega
    · rintro rfl -
      exact h
    · rintro rfl -
      exact h
    · rintro day rfl -
      exact (Date.isComing_iff today day date).2 h
  | none =>
    rw [Date.later, h, Option.getD_none] at hdate
    rw [hdate]
    refine ⟨?_, ⟨0, Nat.zero_le 7, rfl⟩, iff_of_true rfl (Or.inr (Date.later?_eq_none h)),
      fun _ hne => absurd rfl hne, fun _ hne => absurd rfl hne, fun _ _ hne => absurd rfl hne⟩
    rw [Date.precedes_iff]
    omega

/--
CORRECT: trying word after word gives the resolved date and cue, whichever small letter the lower
case has for a capital sigma. The cue is the one that decides on the lower-cased text, and the date
goes with it.
-/
theorem resolve_by_precedence {text lower : List Char} (h : IsLowered text lower) (today : Date) :
    overwritten lower today = resolve text today ∧
    (∀ cue, (resolve text today).2 = cue ↔ Decides lower cue) ∧
    GoesWith today (resolve text today).1 (resolve text today).2 := by
  have hcue := ofLower_of_isLowered h
  refine ⟨?_, fun cue => ?_, goesWith_date today (Cue.find text)⟩
  · rw [overwritten_eq, hcue, resolve]
  · rw [← ofLower_eq_iff, hcue]
    rfl

/-- A weekday beats one before it in the week and `tomorrow`, in a text with a final sigma. -/
theorem resolve_by_precedence_saturday :
    IsLowered "ΟΔΟΣ SATURDAY or tuesday, tomorrow".toList
      "οδος saturday or tuesday, tomorrow".toList ∧
    ∀ today, (resolve "ΟΔΟΣ SATURDAY or tuesday, tomorrow".toList today).2 = .weekday .saturday ∧
      GoesWith today (resolve "ΟΔΟΣ SATURDAY or tuesday, tomorrow".toList today).1
        (resolve "ΟΔΟΣ SATURDAY or tuesday, tomorrow".toList today).2 := by
  have h : IsLowered "ΟΔΟΣ SATURDAY or tuesday, tomorrow".toList
      "οδος saturday or tuesday, tomorrow".toList :=
    ⟨"οδος saturday or tuesday, tomorrow".toList.map fun c => [c], by decide, by decide⟩
  refine ⟨h, fun today => ?_⟩
  obtain ⟨-, hcue, hdate⟩ := resolve_by_precedence h today
  refine ⟨(hcue (.weekday .saturday)).2 ?_, hdate⟩
  exact ofLower_eq_iff.1 (by decide)

example : resolve "saturday or tuesday".toList { year := 2024, month := 1, day := 1 } =
    ({ year := 2024, month := 1, day := 6 }, .weekday .saturday) := by decide

end Agenda.Command
