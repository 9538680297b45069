/-!
Cutting pieces out of a list. A cut keeps a stretch, and behind every piece that it takes out
another one; where a piece went, two kept stretches meet at a seam. CORRECT: every item is kept or
belongs to a piece, and what stands side by side after the cut stands in one kept stretch or has a
seam inside.

    list     a b c d e f g h
    pieces       c d     g
    after    a b e f h
    seams       2   4
-/

namespace Agenda.Text

variable {α β : Type}

/-- A stretch of a list, with what stands before and after it. -/
structure Stretch (α : Type) where
  lead : List α
  items : List α
  after : List α

namespace Stretch

/-- The list that a stretch is a part of. -/
def whole (s : Stretch α) : List α := s.lead ++ (s.items ++ s.after)

/-- The same stretch in a list that stands behind another one. -/
def behind (front : List α) (s : Stretch α) : Stretch α := { s with lead := front ++ s.lead }

/-- The same stretch in the list of the images. -/
def map (f : α → β) (s : Stretch α) : Stretch β where
  lead := s.lead.map f
  items := s.items.map f
  after := s.after.map f

@[simp] theorem map_id (s : Stretch α) : s.map id = s := by simp [map]

theorem whole_behind (front : List α) (s : Stretch α) : (s.behind front).whole = front ++ s.whole :=
  List.append_assoc front s.lead _

theorem whole_map (f : α → β) (s : Stretch α) : (s.map f).whole = s.whole.map f := by
  simp [map, whole]

theorem map_behind (f : α → β) (front : List α) (s : Stretch α) :
    (s.behind front).map f = (s.map f).behind (front.map f) := by
  simp [map, behind]

/-- A stretch that begins behind the front of a list is a stretch of the rest. -/
theorem exists_behind {s : Stretch α} {front as : List α} (h : s.whole = front ++ as)
    (hfront : front.length ≤ s.lead.length) :
    ∃ t : Stretch α, t.whole = as ∧ s = t.behind front := by
  have hprefix : front <+: s.lead :=
    List.prefix_of_prefix_length_le ⟨as, h.symm⟩ (List.prefix_append s.lead _) hfront
  obtain ⟨lead, hlead⟩ := hprefix
  refine ⟨{ s with lead := lead }, ?_, ?_⟩
  · rw [whole, ← hlead, List.append_assoc] at h
    exact List.append_cancel_left h
  · rw [behind, hlead]

end Stretch

/-- A list cut up: the last stretch kept, or a stretch kept, a piece and what is behind it. -/
inductive Cutting (α : Type) where
  | last (kept : List α)
  | cut (kept piece : List α) (later : Cutting α)

namespace Cutting

/-- The list with its pieces. -/
def before : Cutting α → List α
  | last kept => kept
  | cut kept piece later => kept ++ (piece ++ later.before)

/-- The list without its pieces. -/
def after : Cutting α → List α
  | last kept => kept
  | cut kept _ later => kept ++ later.after

/-- The stretches that are kept. -/
def stretches : Cutting α → List (List α)
  | last kept => [kept]
  | cut kept _ later => kept :: later.stretches

/-- The pieces, as stretches of the list before the cut. -/
def pieces : Cutting α → List (Stretch α)
  | last _ => []
  | cut kept piece later =>
    { lead := kept, items := piece, after := later.before } ::
      later.pieces.map (.behind (kept ++ piece))

/-- The places in the list after the cut where a piece went. -/
def seams : Cutting α → List Nat
  | last _ => []
  | cut kept _ later => kept.length :: later.seams.map (kept.length + ·)

/-- The cutting with one more item kept at the front. -/
def push (a : α) : Cutting α → Cutting α
  | last kept => last (a :: kept)
  | cut kept piece later => cut (a :: kept) piece later

variable {c : Cutting α}

@[simp] theorem before_push (a : α) (c : Cutting α) : (c.push a).before = a :: c.before := by
  cases c <;> rfl

@[simp] theorem after_push (a : α) (c : Cutting α) : (c.push a).after = a :: c.after := by
  cases c <;> rfl

theorem pieces_push (a : α) (c : Cutting α) :
    (c.push a).pieces = c.pieces.map (.behind [a]) := by
  cases c with
  | last kept => rfl
  | cut kept piece later =>
    simp only [push, pieces, List.map_cons, List.map_map]
    rfl

/-- Only the kept stretch at the front grows. -/
theorem exists_stretches_push (a : α) (c : Cutting α) :
    ∃ kept more, c.stretches = kept :: more ∧ (c.push a).stretches = (a :: kept) :: more ∧
      kept <+: c.before := by
  cases c with
  | last kept => exact ⟨kept, [], rfl, rfl, List.prefix_rfl⟩
  | cut kept piece later => exact ⟨kept, later.stretches, rfl, rfl, List.prefix_append _ _⟩

/-- The pieces stand in the list before the cut. -/
theorem whole_of_mem_pieces {s : Stretch α} (h : s ∈ c.pieces) : s.whole = c.before := by
  induction c generalizing s with
  | last kept => cases h
  | cut kept piece later ih =>
    rcases List.mem_cons.1 h with rfl | h
    · rfl
    · obtain ⟨t, ht, rfl⟩ := List.mem_map.1 h
      rw [Stretch.whole_behind, ih ht, before, List.append_assoc]

/-- Without pieces the list is the same after the cut. -/
theorem after_eq_before (h : c.pieces = []) : c.after = c.before := by
  cases c with
  | last kept => rfl
  | cut kept piece later => cases h

theorem after_sublist (c : Cutting α) : c.after.Sublist c.before := by
  induction c with
  | last kept => exact List.Sublist.refl kept
  | cut kept piece later ih =>
    exact (List.Sublist.refl kept).append (ih.trans (List.sublist_append_right piece _))

/-- Where no item occurs twice the items of a piece are gone. -/
theorem not_mem_after {s : Stretch α} {a : α} (hnodup : c.before.Nodup) (hs : s ∈ c.pieces)
    (ha : a ∈ s.items) : a ∉ c.after := by
  induction c generalizing s with
  | last kept => cases hs
  | cut kept piece later ih =>
    obtain ⟨-, hbehind, hkept⟩ := List.nodup_append.1 hnodup
    obtain ⟨-, hlater, hpiece⟩ := List.nodup_append.1 hbehind
    rw [after, List.mem_append, not_or]
    rcases List.mem_cons.1 hs with rfl | hs
    · exact ⟨fun h => hkept a h a (List.mem_append_left _ ha) rfl,
        fun h => hpiece a ha a (later.after_sublist.subset h) rfl⟩
    · obtain ⟨t, ht, rfl⟩ := List.mem_map.1 hs
      have hmem : a ∈ later.before := by
        rw [← whole_of_mem_pieces ht]
        exact List.mem_append_right _ (List.mem_append_left _ ha)
      exact ⟨fun h => hkept a h a (List.mem_append_right _ hmem) rfl, ih hlater ht ha⟩

/-- CORRECT: an item is kept or belongs to a piece. -/
theorem mem_after_or_mem_piece {a : α} (h : a ∈ c.before) :
    a ∈ c.after ∨ ∃ s ∈ c.pieces, a ∈ s.items := by
  induction c with
  | last kept => exact Or.inl h
  | cut kept piece later ih =>
    rcases List.mem_append.1 h with hkept | h
    · exact Or.inl (List.mem_append_left _ hkept)
    · rcases List.mem_append.1 h with hpiece | hlater
      · exact Or.inr ⟨_, List.mem_cons_self, hpiece⟩
      · rcases ih hlater with hafter | ⟨s, hs, ha⟩
        · exact Or.inl (List.mem_append_right _ hafter)
        · exact Or.inr ⟨_, List.mem_cons_of_mem _ (List.mem_map_of_mem hs), ha⟩

/-- CORRECT: a stretch after the cut stands in a kept stretch, or has a seam inside. -/
theorem exists_stretch_or_seam {s : Stretch α} (h : s.whole = c.after) :
    (∃ kept ∈ c.stretches, s.items <:+: kept) ∨
      ∃ seam ∈ c.seams, s.lead.length < seam ∧ seam < s.lead.length + s.items.length := by
  induction c generalizing s with
  | last kept =>
    rw [after, Stretch.whole, ← List.append_assoc] at h
    exact Or.inl ⟨kept, List.mem_cons_self, s.lead, s.after, h⟩
  | cut kept piece later ih =>
    rw [after] at h
    by_cases hbehind : kept.length ≤ s.lead.length
    · obtain ⟨t, ht, rfl⟩ := Stretch.exists_behind h hbehind
      rcases ih ht with ⟨next, hnext, hitems⟩ | ⟨seam, hseam, hlead, hitems⟩
      · exact Or.inl ⟨next, List.mem_cons_of_mem _ hnext, hitems⟩
      · refine Or.inr ⟨kept.length + seam, List.mem_cons_of_mem _ (List.mem_map_of_mem hseam), ?_⟩
        simp only [Stretch.behind, List.length_append]
        omega
    · by_cases hover : kept.length < s.lead.length + s.items.length
      · exact Or.inr ⟨kept.length, List.mem_cons_self, by omega, hover⟩
      · -- the stretch ends before the first piece went
        have hfront : s.lead ++ s.items <+: kept ++ later.after :=
          ⟨s.after, by rw [← h, Stretch.whole, List.append_assoc]⟩
        have hkept : s.lead ++ s.items <+: kept := by
          refine List.prefix_of_prefix_length_le hfront (List.prefix_append _ _) ?_
          rw [List.length_append]
          omega
        exact Or.inl ⟨kept, List.mem_cons_self,
          (List.suffix_append s.lead s.items).isInfix.trans hkept.isInfix⟩

end Cutting

end Agenda.Text
