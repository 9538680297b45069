import Mathlib.Data.List.Nodup
import Mathlib.Data.List.Perm.Subperm

/-!
Keeping the marked items of a list. What is kept stands in the old order, and where no item occurs
twice a stretch of the list is still a stretch of what is kept as soon as all its items are kept.

    list     a b c d e f
    marks    1 1 0 1 1 0
    select   a b   d e
-/

namespace Agenda.Text

variable {α β : Type}

/-- The items of a list at the marked places. -/
def select : List Bool → List α → List α
  | true :: marks, a :: as => a :: select marks as
  | false :: marks, _ :: as => select marks as
  | _, _ => []

theorem select_sublist (marks : List Bool) (as : List α) : (select marks as).Sublist as := by
  fun_induction select marks as with
  | case1 marks a as ih => exact ih.cons_cons a
  | case2 marks a as ih => exact ih.cons a
  | case3 => exact List.nil_sublist _

theorem map_select (f : α → β) (marks : List Bool) (as : List α) :
    (select marks as).map f = select marks (as.map f) := by
  fun_induction select marks as with
  | case1 marks a as ih => rw [List.map_cons, List.map_cons, select, ih]
  | case2 marks a as ih => rw [List.map_cons, select, ih]
  | case3 marks as h1 h2 =>
    rcases marks with _ | ⟨_ | _, marks⟩
    · simp [select]
    · cases as with
      | nil => simp [select]
      | cons a as => exact absurd rfl (h2 marks a as rfl)
    · cases as with
      | nil => simp [select]
      | cons a as => exact absurd rfl (h1 marks a as rfl)

theorem select_append {front : List Bool} {as : List α} (h : front.length = as.length)
    (back : List Bool) (bs : List α) :
    select (front ++ back) (as ++ bs) = select front as ++ select back bs := by
  induction as generalizing front with
  | nil =>
    obtain rfl := List.eq_nil_of_length_eq_zero h
    rfl
  | cons a as ih =>
    rcases front with _ | ⟨mark, front⟩
    · cases h
    · have hrest : select (front ++ back) (as ++ bs) = select front as ++ select back bs :=
        ih (by simpa using h)
      cases mark
      · exact hrest
      · exact congrArg (a :: ·) hrest

theorem select_replicate_true (as : List α) :
    select (List.replicate as.length true) as = as := by
  induction as with
  | nil => rfl
  | cons a as ih => exact congrArg (a :: ·) ih

theorem select_replicate_false (as : List α) : select (List.replicate as.length false) as = [] := by
  induction as with
  | nil => rfl
  | cons a as ih => exact ih

/-- An item is kept iff it stands at a marked place. -/
theorem mem_select_iff {marks : List Bool} {as : List α} {a : α} :
    a ∈ select marks as ↔ ∃ i : Nat, marks[i]? = some true ∧ as[i]? = some a := by
  induction as generalizing marks with
  | nil => rcases marks with _ | ⟨_ | _, marks⟩ <;> simp [select]
  | cons b as ih =>
    rcases marks with _ | ⟨mark, marks⟩
    · simp [select]
    · constructor
      · intro h
        have htail : a ∈ select marks as →
            ∃ i : Nat, (mark :: marks)[i]? = some true ∧ (b :: as)[i]? = some a := by
          intro h
          obtain ⟨i, hi⟩ := ih.1 h
          exact ⟨i + 1, hi⟩
        cases mark with
        | false => exact htail h
        | true =>
          rcases List.mem_cons.1 h with rfl | h
          · exact ⟨0, rfl, rfl⟩
          · exact htail h
      · rintro ⟨i, hmark, ha⟩
        cases i with
        | zero =>
          simp only [List.getElem?_cons_zero, Option.some.injEq] at hmark ha
          subst hmark ha
          exact List.mem_cons_self
        | succ i =>
          have hrest := ih.2 ⟨i, hmark, ha⟩
          cases mark with
          | false => exact hrest
          | true => exact List.mem_cons_of_mem b hrest

/-- A stretch whose items are all kept is a stretch of what is kept. -/
theorem infix_of_sublist {s as bs : List α} (hsub : as.Sublist bs) (hnodup : bs.Nodup)
    (hs : s <:+: bs) (hmem : s ⊆ as) : s <:+: as := by
  obtain ⟨front, back, rfl⟩ := hs
  obtain ⟨as', back', rfl, hfront, hback⟩ := List.sublist_append_iff.1 hsub
  obtain ⟨front', mid, rfl, hfront, hmid⟩ := List.sublist_append_iff.1 hfront
  obtain ⟨hleft, -, hright⟩ := List.nodup_append'.1 hnodup
  obtain ⟨-, hs, hdisjoint⟩ := List.nodup_append'.1 hleft
  -- the items of `s` occur nowhere else, so all of them are in `mid`
  have hsmid : s ⊆ mid := by
    intro a ha
    rcases List.mem_append.1 (hmem ha) with h | h
    · rcases List.mem_append.1 h with h | h
      · exact absurd ha (hdisjoint (hfront.subset h))
      · exact h
    · exact absurd (hback.subset h) (hright (List.mem_append_right front ha))
  have hlen := (hs.subperm hsmid).length_le
  obtain rfl := hmid.eq_of_length_le hlen
  exact ⟨front', back', rfl⟩

end Agenda.Text
