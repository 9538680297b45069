import Agenda.Log.Directory

/-!
Spellings of a directory. A text that begins with a slash is a row of segments, each behind a slash.
Segments that are empty, between two slashes or behind the last one, do not count, and neither do
those that are a single dot. All others are kept as they are and in their order, two dots as well,
so that other names make another directory. CORRECT: the parts of a directory are the segments of
its spelling that count.

      spelling     /var//log/       /var/./log      /var/x/../log
      segments     var ε log ε      var . log       var x .. log
      parts        var log          var log         var x .. log
-/

namespace Agenda.Log
open Agenda.Text

/-- A text spells the names among its segments: those that are neither empty nor a single dot. -/
def Spells (text : List Char) (names : List (List Char)) : Prop :=
  ∃ segments : List (List Char), (∀ s ∈ segments, '/' ∉ s) ∧
    text = segments.flatMap ('/' :: ·) ∧ names = segments.filter fun s => s ≠ [] ∧ s ≠ ['.']

/-- Every text has a first segment up to its first slash, and then those behind its slashes. -/
theorem exists_segments (cs : List Char) : ∃ (first : List Char) (segments : List (List Char)),
    '/' ∉ first ∧ (∀ s ∈ segments, '/' ∉ s) ∧ cs = first ++ segments.flatMap ('/' :: ·) := by
  induction cs with
  | nil => exact ⟨[], [], by simp, by simp, rfl⟩
  | cons c cs ih =>
    obtain ⟨first, segments, hfirst, hsegments, rfl⟩ := ih
    by_cases hc : c = '/'
    · subst hc
      refine ⟨[], first :: segments, by simp, ?_, rfl⟩
      intro s hs
      rcases List.mem_cons.1 hs with rfl | hs
      · exact hfirst
      · exact hsegments s hs
    · refine ⟨c :: first, segments, ?_, hsegments, rfl⟩
      intro hmem
      rcases List.mem_cons.1 hmem with h | h
      · exact hc h.symm
      · exact hfirst h

/-- Between the slashes of a row stand its segments, the empty ones left out. -/
theorem pieces_segments {segments : List (List Char)} (h : ∀ s ∈ segments, '/' ∉ s) :
    pieces (· == '/') (segments.flatMap ('/' :: ·)) = segments.filter (· ≠ []) := by
  induction segments with
  | nil => rfl
  | cons s rest ih =>
    have hrest := ih fun t ht => h t (List.mem_cons_of_mem s ht)
    have hslash : pieces (· == '/') ((s :: rest).flatMap ('/' :: ·)) =
        pieces (· == '/') (s ++ rest.flatMap ('/' :: ·)) := by
      rw [List.flatMap_cons, List.cons_append, pieces.eq_def]
      rfl
    rw [hslash]
    by_cases hs : s = []
    · subst hs
      exact hrest
    · have hplain : ∀ c ∈ s, (c == '/') = false := by
        intro c hc
        rw [beq_eq_false_iff_ne]
        rintro rfl
        exact h s List.mem_cons_self hc
      have hend : ∀ c, (rest.flatMap ('/' :: ·)).head? = some c → (c == '/') = true := by
        intro c hc
        cases rest with
        | nil => cases hc
        | cons t rest =>
          cases hc
          rfl
      rw [pieces_append hs hplain hend, hrest, List.filter_cons_of_pos (by simpa using hs)]

/-- CORRECT: the parts of a directory are the names that its text spells. -/
theorem Directory.parts_eq_iff (d : Directory) (names : List (List Char)) :
    d.parts = names ↔ Spells d.text.toList names := by
  have hparts : ∀ segments : List (List Char), (∀ s ∈ segments, '/' ∉ s) →
      d.text.toList = segments.flatMap ('/' :: ·) →
      d.parts = segments.filter fun s => s ≠ [] ∧ s ≠ ['.'] := by
    intro segments hplain htext
    rw [Directory.parts, htext, pieces_segments hplain, List.filter_filter]
    refine List.filter_congr fun s _ => ?_
    rw [Bool.eq_iff_iff]
    simp [and_comm]
  constructor
  · rintro rfl
    obtain ⟨first, segments, hfirst, hsegments, htext⟩ := exists_segments d.text.toList
    -- an absolute text has nothing in front of its first slash
    have hnone : first = [] := by
      cases first with
      | nil => rfl
      | cons c first =>
        have habsolute := d.absolute
        rw [htext] at habsolute
        cases habsolute
        exact absurd List.mem_cons_self hfirst
    subst hnone
    exact ⟨segments, hsegments, htext, hparts segments hsegments htext⟩
  · rintro ⟨segments, hsegments, htext, rfl⟩
    exact hparts segments hsegments htext

example : (Directory.mk "/var/./x/..//log/" (by decide +kernel)).parts =
    ["var".toList, "x".toList, "..".toList, "log".toList] := by decide +kernel

end Agenda.Log
