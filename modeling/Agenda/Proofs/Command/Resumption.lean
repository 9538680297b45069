import Agenda.Proofs.Command.Offer

/-!
A search for a time of day that starts over behind every candidate that it refuses. It goes on to
the next digit, tries the candidate there, and on a refusal leaves the digits and minutes of the
candidate and all digits and colons behind them; so it never tries a second candidate in one run.
CORRECT: this search finds what `find` finds, which is the mention that the first acceptable offer
of a run makes; both find none iff no offer is acceptable, and all places that are tried are the
first digits of runs.

    text      gate 24:15 then 999 or 6:30pm
    tries          24:15      99     6:30pm
    leaves         24:15      999
-/

namespace Agenda.Command
open Agenda.Text

/-- What is left behind when the candidate at the front of a text is refused, and the rest. -/
def leave (text : List Char) : List Char × List Char :=
  let (hour, cs) := takeDigits 2 text
  let (minutes, cs) := takeMinutes cs
  (hour ++ minutes ++ cs.takeWhile isNumberChar, cs.dropWhile isNumberChar)

theorem isNumberChar_of_mem_takeDigits {width : Nat} {cs : List Char} :
    ∀ c ∈ (takeDigits width cs).1, isNumberChar c = true := by
  fun_induction takeDigits width cs with
  | case1 width c cs h ds rest hd ih =>
    rw [hd] at ih
    rintro d (_ | ⟨_, hmem⟩)
    · exact isNumberChar_of_isDigit h
    · exact ih d hmem
  | case2 => exact fun c hc => absurd hc List.not_mem_nil
  | case3 => exact fun c hc => absurd hc List.not_mem_nil

theorem isNumberChar_of_mem_takeMinutes (cs : List Char) :
    ∀ c ∈ (takeMinutes cs).1, isNumberChar c = true := by
  unfold takeMinutes
  split
  · split
    · rename_i a b cs h
      rw [Bool.and_eq_true] at h
      simp [isNumberChar, h.1, h.2]
    · exact fun c hc => absurd hc List.not_mem_nil
  · exact fun c hc => absurd hc List.not_mem_nil

/-- A refused candidate is left behind with all of its run. -/
theorem leave_eq (text : List Char) :
    leave text = (text.takeWhile isNumberChar, text.dropWhile isNumberChar) := by
  have hrun : ∀ s cs : List Char, (∀ c ∈ s, isNumberChar c = true) → s ++ cs = text →
      (s ++ cs.takeWhile isNumberChar, cs.dropWhile isNumberChar) =
        (text.takeWhile isNumberChar, text.dropWhile isNumberChar) := by
    rintro s cs hs rfl
    rw [List.takeWhile_append_of_pos hs, List.dropWhile_append_of_pos hs]
  refine hrun ((takeDigits 2 text).1 ++ (takeMinutes (takeDigits 2 text).2).1)
    (takeMinutes (takeDigits 2 text).2).2 (fun c hc => ?_) ?_
  · rcases List.mem_append.1 hc with h | h
    · exact isNumberChar_of_mem_takeDigits c h
    · exact isNumberChar_of_mem_takeMinutes _ c h
  · rw [List.append_assoc, takeMinutes_append, takeDigits_append]

theorem leave_of_isDigit {d : Char} (hd : d.isDigit = true) (cs : List Char) :
    leave (d :: cs) = (d :: cs.takeWhile isNumberChar, cs.dropWhile isNumberChar) := by
  have hnumeric := isNumberChar_of_isDigit hd
  rw [leave_eq, List.takeWhile_cons_of_pos hnumeric, List.dropWhile_cons_of_pos hnumeric]

/--
The places that the search tries, each as the text before it, and the mention that it finds, in a
text that stands behind another one.
-/
def searchFrom (lead : List Char) : List Char → List (List Char) × Option TimeMention
  | [] => ([], none)
  | c :: cs =>
    if _h : c.isDigit = true then
      match TimeMention.atFront? (c :: cs) with
      | some m => ([lead], some (m.behind lead))
      | none =>
        let later := searchFrom (lead ++ (leave (c :: cs)).1) (leave (c :: cs)).2
        (lead :: later.1, later.2)
    else searchFrom (lead ++ [c]) cs
termination_by cs => cs.length
decreasing_by
  · rw [leave_of_isDigit _h]
    exact Nat.lt_succ_of_le (List.dropWhile_sublist isNumberChar).length_le
  · exact Nat.lt_succ_self _

/-- The places that the search tries in a text, and the mention that it finds. -/
def search (text : List Char) : List (List Char) × Option TimeMention := searchFrom [] text

/-! ### What the search finds -/

/-- Behind a refused candidate the search starts over where its run ends. -/
theorem searchFrom_refused {d : Char} (hd : d.isDigit = true) {cs : List Char}
    (h : TimeMention.atFront? (d :: cs) = none) (lead : List Char) :
    searchFrom lead (d :: cs) =
      (lead :: (searchFrom (lead ++ d :: cs.takeWhile isNumberChar)
          (cs.dropWhile isNumberChar)).1,
        (searchFrom (lead ++ d :: cs.takeWhile isNumberChar) (cs.dropWhile isNumberChar)).2) := by
  rw [searchFrom, dif_pos hd, h, leave_of_isDigit hd]

/-- The search finds the mention of its text. -/
theorem searchFrom_snd (lead cs : List Char) :
    (searchFrom lead cs).2 = (TimeMention.find cs).map (.behind lead) := by
  fun_induction searchFrom lead cs with
  | case1 => rfl
  | case2 lead c cs hc m hm =>
    rw [TimeMention.find_of_isDigit hc, hm]
    rfl
  | case3 lead c cs hc hm later ih =>
    rw [leave_of_isDigit hc] at ih
    rw [TimeMention.find_of_isDigit hc, hm, Option.none_or, TimeMention.map_behind_behind]
    simpa only [later, leave_of_isDigit hc] using ih
  | case4 lead c cs hc ih =>
    rw [ih, TimeMention.find_cons_of_not_isDigit (by simpa using hc), TimeMention.map_behind_behind]

/-! ### Where the search tries -/

/-- The places of the first digits of runs, each as the text before it. -/
def places (text : List Char) : List (List Char) :=
  ((runs text).filter Run.hasDigit).map Run.upToDigit

/-- Every place lies further on in the text than those before it. -/
theorem pairwise_places (text : List Char) :
    (places text).Pairwise fun s t => s.length < t.length := by
  rw [places, List.pairwise_map]
  refine ((pairwise_runs text).filter Run.hasDigit).imp_of_mem fun {r s} hr _ hrs => ?_
  obtain ⟨front, d, more, hchars, -, -, hup, -⟩ :=
    Run.exists_of_hasDigit (List.mem_filter.1 hr).2
  have hrun := hrs.length_le
  have hplace : s.lead.length ≤ s.upToDigit.length := (List.prefix_append _ _).length_le
  simp only [hchars, hup, List.length_append, List.length_cons] at hrun ⊢
  omega

theorem searchFrom_cons {c : Char} (hc : c.isDigit = false) (lead cs : List Char) :
    searchFrom lead (c :: cs) = searchFrom (lead ++ [c]) cs := by
  rw [searchFrom, dif_neg (by simp [hc])]

theorem searchFrom_append {s : List Char} (hs : ∀ c ∈ s, c.isDigit = false) (lead cs : List Char) :
    searchFrom lead (s ++ cs) = searchFrom (lead ++ s) cs := by
  induction s generalizing lead with
  | nil => rw [List.nil_append, List.append_nil]
  | cons c s ih =>
    rw [List.cons_append, searchFrom_cons (hs c List.mem_cons_self),
      ih fun d hd => hs d (List.mem_cons_of_mem c hd), List.append_assoc, List.singleton_append]

/-- Runs behind a text have their first digits behind it. -/
theorem map_upToDigit_behind (s : List Char) (rs : List Run) :
    ((rs.map (Run.behind s)).filter Run.hasDigit).map Run.upToDigit =
      ((rs.filter Run.hasDigit).map Run.upToDigit).map (s ++ ·) := by
  rw [List.filter_map, List.map_map, List.map_map]
  refine congrArg (List.map · _) (funext fun r => ?_)
  exact List.append_assoc s r.lead _

/-- In a run with a digit the search tries that digit, and then at most goes on behind the run. -/
theorem searchFrom_run {s cs : List Char} (hs : ∀ c ∈ s, isNumberChar c = true)
    (hend : ∀ c, cs.head? = some c → isNumberChar c = false)
    (hdigit : Run.hasDigit { lead := [], chars := s, after := cs } = true) (lead : List Char) :
    ∃ later, later <+: (searchFrom (lead ++ s) cs).1 ∧ (searchFrom lead (s ++ cs)).1 =
      (lead ++ Run.upToDigit { lead := [], chars := s, after := cs }) :: later := by
  obtain ⟨front, d, more, hchars, hfront, hd, hup, -⟩ := Run.exists_of_hasDigit hdigit
  rw [List.nil_append] at hup
  rw [hup]
  obtain rfl : s = front ++ d :: more := hchars
  have hmore : ∀ c ∈ more, isNumberChar c = true := fun c hc =>
    hs c (List.mem_append_right front (List.mem_cons_of_mem d hc))
  obtain ⟨htake, hdrop⟩ := span_append hmore hend
  rw [List.append_assoc, List.cons_append, searchFrom_append hfront]
  cases hm : TimeMention.atFront? (d :: (more ++ cs)) with
  | some m =>
    rw [searchFrom, dif_pos hd, hm]
    exact ⟨[], List.nil_prefix, rfl⟩
  | none =>
    rw [searchFrom_refused hd hm, htake, hdrop, ← List.append_assoc]
    exact ⟨_, List.prefix_rfl, rfl⟩

/-- The search tries first digits of runs one after the other, from the first run on. -/
theorem searchFrom_fst_prefix (lead cs : List Char) :
    (searchFrom lead cs).1 <+: (places cs).map (lead ++ ·) := by
  -- run by run: one with a digit is the next place, one of colons only is passed over
  induction cs using induction_on_runs generalizing lead with
  | nil =>
    rw [searchFrom]
    exact List.nil_prefix
  | run s cs hne hs hend ih =>
    rw [places, runs_append hne hs hend]
    cases hdigit : Run.hasDigit { lead := [], chars := s, after := cs } with
    | false =>
      have hno : ∀ c ∈ s, c.isDigit = false := by
        simpa [Run.hasDigit] using hdigit
      rw [List.filter_cons_of_neg (by simp [hdigit]), map_upToDigit_behind, searchFrom_append hno]
      simpa [places, Function.comp_def] using ih (lead ++ s)
    | true =>
      obtain ⟨later, hlater, htries⟩ := searchFrom_run hs hend hdigit lead
      rw [List.filter_cons_of_pos hdigit, List.map_cons, map_upToDigit_behind, htries,
        List.map_cons, List.cons_prefix_cons]
      refine ⟨rfl, hlater.trans ?_⟩
      simpa [places, Function.comp_def] using ih (lead ++ s)
  | other c cs hc ih =>
    rw [places, runs_cons hc, map_upToDigit_behind,
      searchFrom_cons (isDigit_eq_false_of_not_isNumberChar hc)]
    simpa [places, Function.comp_def] using ih (lead ++ [c])

/--
CORRECT: the runs are all longest stretches of digits and colons, from left to right, and each one
with a digit makes exactly one offer. The mention is the one that the first acceptable offer makes,
and there is none iff no offer is acceptable. The search that starts over finds the same, and tries
the first digits of the runs one after the other, none twice.
-/
theorem find_by_runs (text : List Char) :
    (∀ r, r ∈ runs text ↔ r.IsIn text) ∧
    ((runs text).Pairwise fun r s => r.lead ++ r.chars <+: s.lead) ∧
    (∀ r ∈ runs text, r.hasDigit = true → ∃! o, r.Offers o) ∧
    (∀ m, TimeMention.find text = some m ↔
      ∃ earlier r later o, runs text = earlier ++ r :: later ∧
        (∀ s ∈ earlier, ∀ p, s.Offers p → ¬ p.Acceptable) ∧
        r.Offers o ∧ o.Acceptable ∧ o.IsMention r.upToDigit m) ∧
    (TimeMention.find text = none ↔ ∀ r ∈ runs text, ∀ o, r.Offers o → ¬ o.Acceptable) ∧
    (search text).2 = TimeMention.find text ∧
    (search text).1 <+: places text ∧
    (search text).1.Pairwise fun s t => s.length < t.length := by
  have htries : (search text).1 <+: places text := by
    have hprefix := searchFrom_fst_prefix [] text
    simp only [List.nil_append, List.map_id'] at hprefix
    exact hprefix
  refine ⟨fun r => mem_runs_iff, pairwise_runs text, fun r _ => Run.existsUnique_offers,
    fun m => ?_, ?_, ?_, htries, (pairwise_places text).sublist htries.sublist⟩
  · rw [TimeMention.find_eq_findSome?, List.findSome?_eq_some_iff]
    simp only [Run.mention?_eq_none_iff, Run.mention?_eq_some_iff]
    constructor
    · rintro ⟨earlier, r, later, hruns, ⟨o, ho, hm⟩, hnone⟩
      exact ⟨earlier, r, later, o, hruns, hnone, ho, hm.acceptable, hm⟩
    · rintro ⟨earlier, r, later, o, hruns, hnone, ho, -, hm⟩
      exact ⟨earlier, r, later, hruns, ⟨o, ho, hm⟩, hnone⟩
  · rw [TimeMention.find_eq_findSome?, List.findSome?_eq_none_iff]
    simp only [Run.mention?_eq_none_iff]
  · rw [search, searchFrom_snd]
    cases TimeMention.find text <;> rfl

/-- A number that is no time makes an offer of its own, and the mention is that of a later run. -/
theorem find_by_runs_gate : ∃ r ∈ runs "gate 24:15 then 6:30pm".toList,
    r.chars = "24:15".toList ∧ r.hasDigit = true ∧ (∃! o, r.Offers o) ∧
      (TimeMention.find "gate 24:15 then 6:30pm".toList).map (fun m => (m.time, m.span)) =
        some ({ hour := 18, minute := 30 }, (16, 22)) := by
  obtain ⟨hmem, -, hoffers, -⟩ := find_by_runs "gate 24:15 then 6:30pm".toList
  let r : Run :=
    { lead := "gate ".toList
      chars := "24:15".toList
      after := " then 6:30pm".toList }
  have hrun : r.IsIn "gate 24:15 then 6:30pm".toList := by
    have hnumeric : ("24:15".toList.all isNumberChar) = true := by decide
    refine ⟨by decide, by decide, List.all_eq_true.1 hnumeric, ?_, ?_⟩
    · rintro c ⟨⟩
      decide
    · rintro c ⟨⟩
      decide
  exact ⟨_, (hmem _).2 hrun, rfl, by decide, hoffers _ ((hmem _).2 hrun) (by decide), by decide⟩

end Agenda.Command
