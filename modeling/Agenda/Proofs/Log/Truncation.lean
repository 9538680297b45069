import Mathlib.Data.List.Forall2
import Agenda.Proofs.Log.OneLine

/-!
The form that a text from outside is brought to: one line, and either within the limit or cut at the
limit with three dots behind. The dots stand beyond the limit, so that a text that has been cut is
too long once more and is cut again at the same place. CORRECT: the texts of this form are those
that stay as they are, every text is brought to it, and it keeps the characters up to the limit.

    text           call mom⏎at 9am       15 characters, limit 10
    on one line    call mom at 9am
    cut            call mom a...         13 characters
    cut again      call mom a...
-/

namespace Agenda.Log

/-- What stands behind a cut. -/
def dots : List Char := "...".toList

/-- What a character is on one line: a line break is a space there, every other one is itself. -/
inductive OnLine : Char → Char → Prop where
  | lineFeed : OnLine '\n' ' '
  | carriageReturn : OnLine '\r' ' '
  | other {c : Char} (h : c ≠ '\n' ∧ c ≠ '\r') : OnLine c c

/-- One line within a limit, or one that was cut at the limit. -/
inductive Sanitized (limit : Nat) (s : String) : Prop where
  | whole (line : OneLine s) (length : s.length ≤ limit)
  | cut (front : List Char) (line : ∀ c ∈ front, c ≠ '\n' ∧ c ≠ '\r')
      (length : front.length = limit) (text : s.toList = front ++ dots)

/-! ### One line -/

theorem onLine_flatten (c : Char) : OnLine c (flatten c) := by
  unfold flatten
  split
  · rename_i h
    rcases h with rfl | rfl
    · exact .lineFeed
    · exact .carriageReturn
  · rename_i h
    exact .other (not_or.1 h)

/-- A character that breaks no line stays. -/
theorem flatten_of_not_break {c : Char} (h : c ≠ '\n' ∧ c ≠ '\r') : flatten c = c :=
  if_neg (not_or.2 h)

theorem map_flatten_of_not_break {cs : List Char} (h : ∀ c ∈ cs, c ≠ '\n' ∧ c ≠ '\r') :
    cs.map flatten = cs := by
  rw [List.map_congr_left fun c hc => flatten_of_not_break (h c hc), List.map_id']

/-- Character by character the flattened text is the text on one line. -/
theorem forall₂_onLine (cs : List Char) : List.Forall₂ OnLine cs (cs.map flatten) := by
  induction cs with
  | nil => exact List.Forall₂.nil
  | cons c cs ih => exact List.Forall₂.cons (onLine_flatten c) ih

/-! ### The limit -/

variable {s : String} {limit : Nat}

/-- A text within the limit is only flattened. -/
theorem toList_sanitize_of_le (h : s.length ≤ limit) :
    (sanitize s limit).toList = s.toList.map flatten := by
  rw [sanitize, String.toList_ofList, sanitizeChars, if_neg]
  rw [List.length_map, String.length_toList]
  exact Nat.not_lt.2 h

/-- A longer text is flattened and cut. -/
theorem toList_sanitize_of_lt (h : limit < s.length) :
    (sanitize s limit).toList = (s.toList.map flatten).take limit ++ dots := by
  rw [sanitize, String.toList_ofList, sanitizeChars, if_pos]
  · rfl
  · rwa [List.length_map, String.length_toList]

/-- The result has the form. -/
theorem sanitized_sanitize (s : String) (limit : Nat) : Sanitized limit (sanitize s limit) := by
  have hline := oneLine_sanitize s limit
  rcases Nat.lt_or_ge limit s.length with hlt | hle
  · have hcut := toList_sanitize_of_lt hlt
    refine .cut _ (fun c hc => hline c ?_) ?_ hcut
    · rw [hcut]
      exact List.mem_append_left dots hc
    · rw [List.length_take, List.length_map, String.length_toList]
      exact Nat.min_eq_left (Nat.le_of_lt hlt)
  · refine .whole hline ?_
    rw [← String.length_toList, toList_sanitize_of_le hle, List.length_map, String.length_toList]
    exact hle

/-- CORRECT: a text stays as it is iff it has the form already. -/
theorem sanitize_eq_self_iff : sanitize s limit = s ↔ Sanitized limit s := by
  constructor
  · intro h
    rw [← h]
    exact sanitized_sanitize s limit
  · intro h
    rw [← String.toList_inj]
    cases h with
    | whole line length => rw [toList_sanitize_of_le length, map_flatten_of_not_break line]
    | cut front line length text =>
      have hlong : limit < s.length := by
        rw [← String.length_toList, text, List.length_append, length]
        exact Nat.lt_add_of_pos_right (by decide)
      -- the second cut is where the first one was
      have hdots : dots.map flatten = dots := by decide
      rw [toList_sanitize_of_lt hlong, text, List.map_append, map_flatten_of_not_break line, hdots,
        ← length, List.take_left]

theorem Sanitized.length_le (h : Sanitized limit s) : s.length ≤ limit + 3 := by
  cases h with
  | whole line length => exact Nat.le_add_right_of_le length
  | cut front line length text =>
    rw [← String.length_toList, text, List.length_append, length]
    exact Nat.le_refl _

/--
CORRECT: what is sanitized is one line; it is the text with a space for every line break if that is
within the limit, and otherwise its characters up to the limit and three dots, so that it is at most
three characters longer than the limit; and sanitizing it again with the same limit changes nothing.
-/
theorem sanitize_once_is_enough (s : String) (limit : Nat) :
    OneLine (sanitize s limit) ∧
    (∃ flat, List.Forall₂ OnLine s.toList flat ∧
      (s.length ≤ limit → (sanitize s limit).toList = flat) ∧
      (limit < s.length → (sanitize s limit).toList = flat.take limit ++ "...".toList)) ∧
    (sanitize s limit).length ≤ limit + 3 ∧
    sanitize (sanitize s limit) limit = sanitize s limit := by
  have hform := sanitized_sanitize s limit
  exact ⟨oneLine_sanitize s limit,
    ⟨_, forall₂_onLine s.toList, toList_sanitize_of_le, toList_sanitize_of_lt⟩,
    hform.length_le, sanitize_eq_self_iff.2 hform⟩

example : sanitize "é\r\nat 9" 0 = "..." ∧ sanitize "é\r\nat 9" 4 = "é  a..." ∧
    sanitize "é\r\nat 9" 7 = "é  at 9" := by decide

end Agenda.Log
