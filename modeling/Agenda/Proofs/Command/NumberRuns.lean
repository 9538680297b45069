import Agenda.Proofs.Command.ClockText

/-!
The runs of digits and colons in a text. `runs` cuts them out from left to right; they are the
stretches of such characters that cannot be made longer, all of them, and each ends before the next
one starts. CORRECT: the search for a mention tries one candidate for every run that has a digit, at
the first digit, and takes the first that is a time of day.

    text           gate :24:15 or 9, then 6:30pm
    runs                :24:15    9       6:30
    candidates           24:15    9       6:30pm
-/

namespace Agenda.Command
open Agenda.Text

/-- The characters of runs. -/
def isNumberChar (c : Char) : Bool := c.isDigit || c == ':'

/-- A stretch of a text, with what stands before and after it. -/
structure Run where
  lead : List Char
  chars : List Char
  after : List Char

namespace Run

/-- A stretch of digits and colons in a text, with no such character next to it. -/
structure IsIn (r : Run) (text : List Char) : Prop where
  parts : text = r.lead ++ (r.chars ++ r.after)
  nonempty : r.chars ≠ []
  numeric : ∀ c ∈ r.chars, isNumberChar c = true
  starts : ∀ c, r.lead.getLast? = some c → isNumberChar c = false
  ends : ∀ c, r.after.head? = some c → isNumberChar c = false

/-- Whether there is a digit in a run. -/
def hasDigit (r : Run) : Bool := r.chars.any Char.isDigit

/-- The text before the first digit of a run. -/
def upToDigit (r : Run) : List Char := r.lead ++ r.chars.takeWhile fun c => !c.isDigit

/-- The text from the first digit of a run. -/
def fromDigit (r : Run) : List Char := (r.chars.dropWhile fun c => !c.isDigit) ++ r.after

/-- The same run in a text that stands behind another one. -/
def behind (s : List Char) (r : Run) : Run := { r with lead := s ++ r.lead }

end Run

/-- The runs of a text, from left to right. -/
def runs : List Char → List Run
  | [] => []
  | c :: cs =>
    if isNumberChar c then
      { lead := []
        chars := c :: cs.takeWhile isNumberChar
        after := cs.dropWhile isNumberChar } ::
          (runs (cs.dropWhile isNumberChar)).map (.behind (c :: cs.takeWhile isNumberChar))
    else (runs cs).map (.behind [c])
termination_by cs => cs.length
decreasing_by
  · exact Nat.lt_succ_of_le (List.dropWhile_sublist isNumberChar).length_le
  · exact Nat.lt_succ_self _

/-! ### The cut -/

theorem isNumberChar_of_isDigit {c : Char} (h : c.isDigit = true) : isNumberChar c = true := by
  rw [isNumberChar, h, Bool.true_or]

theorem isDigit_eq_false_of_not_isNumberChar {c : Char} (h : isNumberChar c = false) :
    c.isDigit = false := by
  rw [isNumberChar, Bool.or_eq_false_iff] at h
  exact h.1

/-- What is left behind the longest stretch of one kind begins with another character. -/
theorem not_of_head?_dropWhile {p : Char → Bool} {cs : List Char} {c : Char}
    (h : (cs.dropWhile p).head? = some c) : p c = false := by
  have hnot := List.head?_dropWhile_not p cs
  rw [h] at hnot
  exact hnot

/-- Characters of one kind up to another one are the longest stretch of them. -/
theorem span_append {p : Char → Bool} {s cs : List Char} (hs : ∀ c ∈ s, p c = true)
    (hend : ∀ c, cs.head? = some c → p c = false) :
    (s ++ cs).takeWhile p = s ∧ (s ++ cs).dropWhile p = cs := by
  rw [List.takeWhile_append_of_pos hs, List.dropWhile_append_of_pos hs]
  cases cs with
  | nil => exact ⟨List.append_nil s, rfl⟩
  | cons c cs =>
    have hc := hend c rfl
    simp [hc]

/-- A text is taken apart into runs and other characters, one at a time. -/
@[elab_as_elim]
theorem induction_on_runs {motive : List Char → Prop} (text : List Char) (nil : motive [])
    (run : ∀ s cs, s ≠ [] → (∀ c ∈ s, isNumberChar c = true) →
      (∀ c, cs.head? = some c → isNumberChar c = false) → motive cs → motive (s ++ cs))
    (other : ∀ c cs, isNumberChar c = false → motive cs → motive (c :: cs)) : motive text := by
  fun_induction runs text with
  | case1 => exact nil
  | case2 c cs hc ih =>
    have hs : ∀ d ∈ c :: cs.takeWhile isNumberChar, isNumberChar d = true := by
      simpa [hc] using fun d hd => (List.mem_takeWhile_imp hd)
    have hstep := run _ _ (List.cons_ne_nil c _) hs (fun _ => not_of_head?_dropWhile) ih
    rwa [List.cons_append, List.takeWhile_append_dropWhile] at hstep
  | case3 c cs hc ih => exact other c cs (by simpa using hc) ih

/-- A run at the front of a text is the first one. -/
theorem runs_append {s cs : List Char} (hne : s ≠ []) (hs : ∀ c ∈ s, isNumberChar c = true)
    (hend : ∀ c, cs.head? = some c → isNumberChar c = false) :
    runs (s ++ cs) = { lead := [], chars := s, after := cs } :: (runs cs).map (.behind s) := by
  obtain ⟨c, s, rfl⟩ := List.exists_cons_of_ne_nil hne
  obtain ⟨htake, hdrop⟩ := span_append (fun d hd => hs d (List.mem_cons_of_mem c hd)) hend
  rw [List.cons_append, runs, if_pos (hs c List.mem_cons_self), htake, hdrop]

theorem runs_cons {c : Char} (hc : isNumberChar c = false) (cs : List Char) :
    runs (c :: cs) = (runs cs).map (.behind [c]) := by
  rw [runs, if_neg (by simp [hc])]

namespace Run

/-- A run behind a text is a run of both together, unless the text runs on into it. -/
theorem IsIn.behind {r : Run} {s cs : List Char} (h : r.IsIn cs)
    (hs : r.lead = [] → ∀ c, s.getLast? = some c → isNumberChar c = false) :
    (r.behind s).IsIn (s ++ cs) := by
  refine ⟨by rw [h.parts, Run.behind, List.append_assoc], h.nonempty, h.numeric, fun c hc => ?_,
    h.ends⟩
  cases hl : r.lead with
  | nil => exact hs hl c (by simpa [Run.behind, hl] using hc)
  | cons l ls => exact h.starts c (by simpa [Run.behind, hl, List.getLast?_append] using hc)

/-- A run that starts behind a text is a run of what stands behind the text. -/
theorem IsIn.of_behind {r : Run} {s cs : List Char} (h : (r.behind s).IsIn (s ++ cs)) :
    r.IsIn cs := by
  refine ⟨?_, h.nonempty, h.numeric, fun c hc => h.starts c ?_, h.ends⟩
  · have hparts := h.parts
    rw [Run.behind, List.append_assoc] at hparts
    exact List.append_cancel_left hparts
  · simp [Run.behind, List.getLast?_append, hc]

/-- No run has the first character in it if it is neither a digit nor a colon. -/
theorem isIn_cons_iff {r : Run} {c : Char} {cs : List Char} (hc : isNumberChar c = false) :
    r.IsIn (c :: cs) ↔ ∃ s : Run, s.IsIn cs ∧ s.behind [c] = r := by
  constructor
  · intro h
    cases hl : r.lead with
    | nil =>
      obtain ⟨d, ds, hd⟩ := List.exists_cons_of_ne_nil h.nonempty
      have hparts := h.parts
      rw [hl, hd] at hparts
      have hnum := h.numeric d (by rw [hd]; exact List.mem_cons_self)
      rw [← (List.cons.inj hparts).1, hc] at hnum
      cases hnum
    | cons l ls =>
      have hparts := h.parts
      rw [hl] at hparts
      have heq : ({ r with lead := ls } : Run).behind [c] = r := by
        rw [Run.behind, List.singleton_append, (List.cons.inj hparts).1, ← hl]
      exact ⟨{ r with lead := ls }, IsIn.of_behind (heq.symm ▸ h), heq⟩
  · rintro ⟨s, hs, rfl⟩
    refine hs.behind fun _ d hd => ?_
    rw [List.getLast?_singleton, Option.some.injEq] at hd
    exact hd ▸ hc

/-- A stretch of digits and colons at the front is the first run, and the others are behind it. -/
theorem isIn_append_iff {r : Run} {s cs : List Char} (hne : s ≠ [])
    (hs : ∀ c ∈ s, isNumberChar c = true)
    (hend : ∀ c, cs.head? = some c → isNumberChar c = false) :
    r.IsIn (s ++ cs) ↔
      r = { lead := [], chars := s, after := cs } ∨ ∃ t : Run, t.IsIn cs ∧ t.behind s = r := by
  constructor
  · intro h
    cases hl : r.lead with
    | nil =>
      have hparts := h.parts
      rw [hl, List.nil_append] at hparts
      obtain ⟨htake, hdrop⟩ := span_append h.numeric h.ends
      rw [← hparts] at htake hdrop
      obtain ⟨htake', hdrop'⟩ := span_append hs hend
      left
      cases r
      simp_all
    | cons l ls =>
      right
      rcases List.append_eq_append_iff.1 h.parts with ⟨m, hlead, hcs⟩ | ⟨m, hlead, -⟩
      · have heq : ({ r with lead := m } : Run).behind s = r := by
          rw [Run.behind, ← hlead]
        exact ⟨{ r with lead := m }, IsIn.of_behind (heq.symm ▸ h), heq⟩
      · -- the text before the run would end on a digit or colon
        have hlast : r.lead.getLast? = some (r.lead.getLast (by simp [hl])) :=
          List.getLast?_eq_some_getLast _
        have hnum := hs _ (hlead ▸ List.mem_append_left m (List.mem_of_getLast? hlast))
        rw [h.starts _ hlast] at hnum
        cases hnum
  · rintro (rfl | ⟨t, ht, rfl⟩)
    · exact ⟨rfl, hne, hs, by simp, hend⟩
    · refine ht.behind fun hnil => ?_
      -- the run would start where the first one ends
      obtain ⟨d, ds, hd⟩ := List.exists_cons_of_ne_nil ht.nonempty
      have hparts := ht.parts
      rw [hnil, hd] at hparts
      have hnum := ht.numeric d (by rw [hd]; exact List.mem_cons_self)
      rw [hend d (by rw [hparts]; rfl)] at hnum
      cases hnum

end Run

/-- The cut has all runs of a text and nothing else. -/
theorem mem_runs_iff {text : List Char} {r : Run} : r ∈ runs text ↔ r.IsIn text := by
  induction text using induction_on_runs generalizing r with
  | nil =>
    rw [runs]
    refine ⟨fun h => (nomatch h), fun h => ?_⟩
    have hparts := h.parts
    simp [h.nonempty] at hparts
  | run s cs hne hs hend ih =>
    rw [runs_append hne hs hend, Run.isIn_append_iff hne hs hend]
    simp only [List.mem_cons, List.mem_map, ih]
  | other c cs hc ih =>
    rw [runs_cons hc, Run.isIn_cons_iff hc]
    simp only [List.mem_map, ih]

/-- Every run ends before the next one starts. -/
theorem pairwise_runs (text : List Char) :
    (runs text).Pairwise fun r s => r.lead ++ r.chars <+: s.lead := by
  have hbehind : ∀ (s : List Char) {rs : List Run},
      (rs.Pairwise fun r s => r.lead ++ r.chars <+: s.lead) →
      (rs.map (Run.behind s)).Pairwise fun r s => r.lead ++ r.chars <+: s.lead := by
    intro s rs h
    rw [List.pairwise_map]
    refine h.imp fun {r t} hrt => ?_
    simpa [Run.behind, List.append_assoc] using hrt
  induction text using induction_on_runs with
  | nil =>
    rw [runs]
    exact List.Pairwise.nil
  | run s cs hne hs hend ih =>
    rw [runs_append hne hs hend]
    refine List.Pairwise.cons (fun r hr => ?_) (hbehind s ih)
    obtain ⟨t, -, rfl⟩ := List.mem_map.1 hr
    exact List.prefix_append _ _
  | other c cs hc ih =>
    rw [runs_cons hc]
    exact hbehind [c] ih

/-! ### One candidate for each run -/

/-- The same mention in a text that stands behind another one. -/
def TimeMention.behind (s : List Char) (m : TimeMention) : TimeMention :=
  { m with before := s ++ m.before }

theorem TimeMention.map_behind_behind (s t : List Char) (found : Option TimeMention) :
    (found.map (behind t)).map (behind s) = found.map (behind (s ++ t)) := by
  cases found with
  | none => rfl
  | some m => simp [behind, List.append_assoc]

/-- The mention at the first digit of a run, if the run has a digit and its candidate is a time. -/
def Run.mention? (r : Run) : Option TimeMention :=
  if r.hasDigit then (TimeMention.atFront? r.fromDigit).map (.behind r.upToDigit) else none

theorem Run.mention?_behind (s : List Char) (r : Run) :
    (r.behind s).mention? = r.mention?.map (.behind s) := by
  have hup : (r.behind s).upToDigit = s ++ r.upToDigit := List.append_assoc _ _ _
  unfold mention?
  rw [show (r.behind s).hasDigit = r.hasDigit from rfl, hup]
  split
  · exact (TimeMention.map_behind_behind s r.upToDigit _).symm
  · rfl

/-- A run is cut at its first digit. -/
theorem Run.exists_of_hasDigit {r : Run} (h : r.hasDigit = true) :
    ∃ front d more, r.chars = front ++ d :: more ∧ (∀ c ∈ front, c.isDigit = false) ∧
      d.isDigit = true ∧ r.upToDigit = r.lead ++ front ∧ r.fromDigit = d :: (more ++ r.after) := by
  have hsplit : r.chars.takeWhile (fun c => !c.isDigit) ++
      r.chars.dropWhile (fun c => !c.isDigit) = r.chars := List.takeWhile_append_dropWhile
  have hnot := List.head?_dropWhile_not (fun c : Char => !c.isDigit) r.chars
  cases hdrop : r.chars.dropWhile (fun c => !c.isDigit) with
  | nil =>
    rw [List.dropWhile_eq_nil_iff] at hdrop
    obtain ⟨c, hc, hdigit⟩ := List.any_eq_true.1 h
    have hno := hdrop c hc
    rw [hdigit] at hno
    cases hno
  | cons d more =>
    rw [hdrop] at hsplit hnot
    refine ⟨_, d, more, hsplit.symm, fun c hc => ?_, by simpa using hnot, rfl, ?_⟩
    · simpa using List.mem_takeWhile_imp hc
    · rw [fromDigit, hdrop, List.cons_append]

namespace TimeMention

theorem find_cons_of_not_isDigit {c : Char} (hc : c.isDigit = false) (cs : List Char) :
    find (c :: cs) = (find cs).map (behind [c]) := by
  have hno : ∀ d ∈ [c], d.isDigit = false := by simpa using hc
  exact find_append hno cs

/-- A refused candidate is left behind with the rest of its run. -/
theorem scan_true (cs : List Char) : scan true cs =
    (find (cs.dropWhile isNumberChar)).map (behind (cs.takeWhile isNumberChar)) := by
  induction cs with
  | nil => rfl
  | cons c cs ih =>
    have hstep : scan true (c :: cs) = (scan (isNumberChar c) cs).map (push c) := by
      simp [scan, isNumberChar]
    rw [hstep]
    cases hc : isNumberChar c with
    | true =>
      rw [ih, List.takeWhile_cons_of_pos hc, List.dropWhile_cons_of_pos hc, Option.map_map]
      rfl
    | false =>
      rw [List.takeWhile_cons_of_neg (by simp [hc]), List.dropWhile_cons_of_neg (by simp [hc]),
        find_cons_of_not_isDigit (isDigit_eq_false_of_not_isNumberChar hc), map_behind_behind]
      rfl

/-- At a digit its candidate is tried, and then the search goes on behind the run. -/
theorem find_of_isDigit {d : Char} (hd : d.isDigit = true) (cs : List Char) :
    find (d :: cs) = (atFront? (d :: cs)).or
      ((find (cs.dropWhile isNumberChar)).map (behind (d :: cs.takeWhile isNumberChar))) := by
  rw [find, scan, hd, Bool.not_false, Bool.and_self, if_pos rfl, scan_true, Option.map_map]
  cases atFront? (d :: cs) with
  | some m => rfl
  | none => rfl

/-- At a run its candidate is tried, and then the search goes on behind the run. -/
theorem find_run {s cs : List Char} (hs : ∀ c ∈ s, isNumberChar c = true)
    (hend : ∀ c, cs.head? = some c → isNumberChar c = false) :
    find (s ++ cs) = (Run.mention? { lead := [], chars := s, after := cs }).or
      ((find cs).map (behind s)) := by
  cases hdigit : Run.hasDigit { lead := [], chars := s, after := cs } with
  | false =>
    have hno : ∀ c ∈ s, c.isDigit = false := by
      simpa [Run.hasDigit] using hdigit
    rw [Run.mention?, hdigit, find_append hno]
    rfl
  | true =>
    obtain ⟨front, d, more, hchars, hfront, hd, hup, hfrom⟩ := Run.exists_of_hasDigit hdigit
    have hmore : ∀ c ∈ more, isNumberChar c = true := by
      intro c hc
      refine hs c ?_
      rw [show s = front ++ d :: more from hchars]
      exact List.mem_append_right front (List.mem_cons_of_mem d hc)
    obtain ⟨htake, hdrop⟩ := span_append hmore hend
    rw [Run.mention?, hdigit, if_pos rfl, hup, hfrom, show s = front ++ d :: more from hchars,
      List.append_assoc, List.cons_append, find_append hfront, find_of_isDigit hd, htake, hdrop]
    cases atFront? (d :: (more ++ cs)) with
    | some m => rfl
    | none => exact map_behind_behind front (d :: more) (find cs)

/-- CORRECT: the mention of a text is that of the first run that has one. -/
theorem find_eq_findSome? (text : List Char) :
    find text = (runs text).findSome? Run.mention? := by
  have hbehind : ∀ (s : List Char) (rs : List Run),
      (rs.map (Run.behind s)).findSome? Run.mention? =
        (rs.findSome? Run.mention?).map (behind s) := by
    intro s rs
    rw [List.findSome?_map, List.map_findSome?]
    exact congrArg (List.findSome? · rs) (funext (Run.mention?_behind s))
  induction text using induction_on_runs with
  | nil =>
    rw [runs]
    rfl
  | run s cs hne hs hend ih =>
    rw [runs_append hne hs hend, find_run hs hend, ih, List.findSome?_cons, hbehind]
    cases Run.mention? _ with
    | some m => rfl
    | none => rfl
  | other c cs hc ih =>
    rw [runs_cons hc, hbehind, ← ih]
    exact find_cons_of_not_isDigit (isDigit_eq_false_of_not_isNumberChar hc) cs

end TimeMention

end Agenda.Command
