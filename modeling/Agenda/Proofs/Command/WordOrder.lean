import Mathlib.Data.List.Forall2
import Agenda.Proofs.Command.TitleForm

/-!
The words of a title and the words of its command. The passes keep characters in their order, and
they take out white space only inside the mention of a time and inside `next week`. Where that white
space lay between two characters that are neighbours afterwards, two words have become one. CORRECT:
if white space of this kind does not count, each word of the title is a part of one word of the
command, and later words are parts of later ones.

    command    Pre-next weekend at 3 pm with Ann      Q3 p.m.review
    kept       Pre-     end             with Ann      Q       review
    joined     Pre-nextweekend at 3 pm with Ann       Q3p.m.review
    title      Pre-end with Ann                       Qreview
-/

namespace Agenda.Text

/-- Folding makes no blank and takes none away. -/
theorem isBlank_fold (c : Char) : isBlank (fold c) = isBlank c := by
  unfold fold
  split
  · rename_i h
    rw [h]
    decide
  · split
    · rename_i h
      rw [h]
      decide
    · exact isBlank_toLower c

/-! ### Words, one after the other -/

/-- The characters in front of the first blank. -/
def firstWord (cs : List Char) : List Char := cs.takeWhile fun c => !isBlank c

/-- The words behind the first blank. -/
def laterWords (cs : List Char) : List (List Char) := words (cs.dropWhile fun c => !isBlank c)

/-- Words that are parts of other words, later ones of later ones. -/
def PartsOf (ws vs : List (List Char)) : Prop := List.SublistForall₂ List.Sublist ws vs

section FirstWord
variable {c : Char}

theorem firstWord_of_isBlank (hc : isBlank c = true) (cs : List Char) :
    firstWord (c :: cs) = [] := by simp [firstWord, hc]

theorem firstWord_of_not_isBlank (hc : isBlank c = false) (cs : List Char) :
    firstWord (c :: cs) = c :: firstWord cs := by simp [firstWord, hc]

theorem laterWords_of_isBlank (hc : isBlank c = true) (cs : List Char) :
    laterWords (c :: cs) = words cs := by simp [laterWords, hc, words_of_isBlank]

theorem laterWords_of_not_isBlank (hc : isBlank c = false) (cs : List Char) :
    laterWords (c :: cs) = laterWords cs := by simp [laterWords, hc]

/-- The first word goes on to the first blank. -/
theorem words_of_not_isBlank (hc : isBlank c = false) (cs : List Char) :
    words (c :: cs) = (c :: firstWord cs) :: laterWords cs := by
  induction cs generalizing c with
  | nil => simp [words, pieces, hc, firstWord, laterWords]
  | cons d ds ih =>
    cases hd : isBlank d with
    | true =>
      rw [words_cons_isBlank hc hd, words_of_isBlank hd, firstWord_of_isBlank hd,
        laterWords_of_isBlank hd]
    | false =>
      rw [words_cons_not_isBlank hc hd, ih hd, consWord, firstWord_of_not_isBlank hd,
        laterWords_of_not_isBlank hd]

/-- In front of the first blank there is the first word, or nothing. -/
theorem words_cases (cs : List Char) :
    words cs = laterWords cs ∨ words cs = firstWord cs :: laterWords cs := by
  cases cs with
  | nil => exact Or.inl rfl
  | cons c cs =>
    cases hc : isBlank c with
    | true => exact Or.inl (by rw [words_of_isBlank hc, laterWords_of_isBlank hc])
    | false =>
      rw [words_of_not_isBlank hc, firstWord_of_not_isBlank hc, laterWords_of_not_isBlank hc]
      exact Or.inr rfl

end FirstWord

/-- A character more in front of a text takes no part away. -/
theorem PartsOf.words_cons {ws : List (List Char)} {cs : List Char} (h : PartsOf ws (words cs))
    (c : Char) : PartsOf ws (words (c :: cs)) := by
  cases hc : isBlank c with
  | true => rwa [words_of_isBlank hc]
  | false =>
    rw [words_of_not_isBlank hc]
    rcases words_cases cs with hlater | hfirst
    · rw [hlater] at h
      exact List.SublistForall₂.cons_right h
    · rw [hfirst] at h
      cases h with
      | nil => exact List.SublistForall₂.nil
      | cons hpart hrest => exact List.SublistForall₂.cons (hpart.cons c) hrest
      | cons_right hrest => exact List.SublistForall₂.cons_right hrest

/-- One text goes on as a part of another one, up to the first blank and then word by word. -/
structure GoesOn (cs ds : List Char) : Prop where
  first : (firstWord cs).Sublist (firstWord ds)
  later : PartsOf (laterWords cs) (laterWords ds)

section GoesOn
variable {cs ds : List Char} {c : Char}

/-- A visible character that only the larger text has changes nothing. -/
theorem GoesOn.skip (h : GoesOn cs ds) (hc : isBlank c = false) : GoesOn cs (c :: ds) where
  first := by
    rw [firstWord_of_not_isBlank hc]
    exact h.first.cons c
  later := by
    rw [laterWords_of_not_isBlank hc]
    exact h.later

/-- A visible character that both texts have belongs to the first word of both. -/
theorem GoesOn.cons (h : GoesOn cs ds) (hc : isBlank c = false) : GoesOn (c :: cs) (c :: ds) where
  first := by
    rw [firstWord_of_not_isBlank hc, firstWord_of_not_isBlank hc]
    exact h.first.cons_cons c
  later := by
    rw [laterWords_of_not_isBlank hc, laterWords_of_not_isBlank hc]
    exact h.later

/-- What goes on behind a visible character makes words that are parts of words. -/
theorem GoesOn.partsOf (h : GoesOn cs ds) (hc : isBlank c = false) :
    PartsOf (words (c :: cs)) (words (c :: ds)) := by
  rw [words_of_not_isBlank hc, words_of_not_isBlank hc]
  exact List.SublistForall₂.cons (h.first.cons_cons c) h.later

/-- Where both texts have a blank or an end, the words of both begin anew. -/
theorem GoesOn.of_isBlank (hcs : blankAhead cs = true) (hc : isBlank c = true)
    (h : PartsOf (words cs) (words ds)) : GoesOn cs (c :: ds) := by
  have hfront : firstWord cs = [] ∧ laterWords cs = words cs := by
    cases cs with
    | nil => exact ⟨rfl, rfl⟩
    | cons d cs =>
      rw [firstWord_of_isBlank hcs, laterWords_of_isBlank hcs, words_of_isBlank hcs]
      exact ⟨rfl, rfl⟩
  refine ⟨?_, ?_⟩
  · rw [hfront.1]
    exact List.nil_sublist _
  · rwa [hfront.2, laterWords_of_isBlank hc]

end GoesOn

/-- A word is no part of words each of which it is no part of. -/
theorem not_partsOf_singleton {w : List Char} {vs : List (List Char)}
    (h : ∀ v ∈ vs, ¬ w.Sublist v) : ¬ PartsOf [w] vs := by
  intro hparts
  obtain ⟨parts, hpart, hsub⟩ := List.sublistForall₂_iff.1 hparts
  obtain ⟨v, rest, hwv, hnil, rfl⟩ := List.forall₂_cons_left_iff.1 hpart
  exact h v (hsub.subset List.mem_cons_self) hwv

/-- Cut at its spaces a text of joined words falls back into the words. -/
theorem pieces_unwords {ws : List (List Char)}
    (h : ∀ w ∈ ws, w ≠ [] ∧ ∀ c ∈ w, isBlank c = false) :
    pieces (· == ' ') (unwords ws) = ws := by
  have hspace : ∀ w ∈ ws, ∀ c ∈ w, (c == ' ') = false := by
    intro w hw c hc
    rw [beq_eq_false_iff_ne]
    rintro rfl
    exact absurd ((h w hw).2 _ hc) (by decide)
  induction ws with
  | nil => rfl
  | cons w ws ih =>
    have hw := (h w List.mem_cons_self).1
    have hplain := hspace w List.mem_cons_self
    have hrest := ih (fun v hv => h v (List.mem_cons_of_mem w hv))
      (fun v hv => hspace v (List.mem_cons_of_mem w hv))
    cases ws with
    | nil =>
      have hone : pieces (· == ' ') (w ++ []) = [w] := pieces_append hw hplain (by simp)
      rwa [List.append_nil] at hone
    | cons v vs =>
      rw [unwords, pieces_append hw hplain (by simp), pieces.eq_def]
      simp only [beq_self_eq_true, ite_true, hrest]

end Agenda.Text

namespace Agenda.Command.Title
open Agenda.Calendar Agenda.Text

/-! ### Words of what is kept -/

/-- Whether a place lies between two visible characters that are neighbours. -/
def bridged : List (Char × Nat) → Nat → Bool
  | p :: q :: ps, place =>
    (!isBlank p.1 && !isBlank q.1 && p.2 < place && place < q.2) || bridged (q :: ps) place
  | _, _ => false

/-- Characters at places that increase. -/
def InOrder (ps : List (Char × Nat)) : Prop := ps.Pairwise fun p q => p.2 < q.2

variable {ps qs : List (Char × Nat)} {p : Char × Nat}

/-- A place between two neighbours lies behind the first character. -/
theorem lt_of_bridged {place : Nat} (hps : InOrder (p :: ps))
    (h : bridged (p :: ps) place = true) : p.2 < place := by
  induction ps generalizing p with
  | nil => cases h
  | cons q qs ih =>
    obtain ⟨hp, hqs⟩ := List.pairwise_cons.1 hps
    simp only [bridged, Bool.or_eq_true, Bool.and_eq_true, decide_eq_true_eq] at h
    rcases h with ⟨⟨-, hlt⟩, -⟩ | hlater
    · exact hlt
    · exact (hp q List.mem_cons_self).trans (ih hqs hlater)

/-- Between two neighbours there is no place of a third character. -/
theorem bridged_eq_false (hps : InOrder ps) (hp : p ∈ ps) : bridged ps p.2 = false := by
  rw [Bool.eq_false_iff]
  induction ps with
  | nil => cases hp
  | cons q qs ih =>
    intro h
    have hlt := lt_of_bridged hps h
    obtain ⟨hq, hqs⟩ := List.pairwise_cons.1 hps
    rcases List.mem_cons.1 hp with rfl | hp
    · exact Nat.lt_irrefl _ hlt
    · cases qs with
      | nil => cases hp
      | cons r rs =>
        simp only [bridged, ih hqs hp, Bool.or_false, Bool.and_eq_true, decide_eq_true_eq] at h
        rcases List.mem_cons.1 hp with rfl | hp
        · exact Nat.lt_irrefl _ h.2
        · exact Nat.lt_asymm h.2 ((List.pairwise_cons.1 hqs).1 p hp)

/-- If no white space went between neighbours, the words of what is kept are parts of words. -/
theorem partsOf_words (h : ps.Sublist qs) (hqs : InOrder qs)
    (hgap : ∀ b ∈ qs, isBlank b.1 = true → bridged ps b.2 = false) :
    PartsOf (words (letters ps)) (words (letters qs)) ∧
      ((∀ p, ps.head? = some p → isBlank p.1 = false →
          ∀ b ∈ qs, isBlank b.1 = true → p.2 ≤ b.2) →
        GoesOn (letters ps) (letters qs)) := by
  -- the second half is about what stands behind a visible character that both begin with
  induction h with
  | slnil => exact ⟨.nil, fun _ => ⟨.refl _, .nil⟩⟩
  | @cons ps qs q hsub ih =>
    obtain ⟨hq, hqs⟩ := List.pairwise_cons.1 hqs
    obtain ⟨hparts, hgoes⟩ := ih hqs fun b hb => hgap b (List.mem_cons_of_mem q hb)
    refine ⟨hparts.words_cons q.1, fun hhead => ?_⟩
    cases hblank : isBlank q.1 with
    | false =>
      exact (hgoes fun p hp hvisible b hb =>
        hhead p hp hvisible b (List.mem_cons_of_mem q hb)).skip hblank
    | true =>
      refine .of_isBlank ?_ hblank hparts
      cases ps with
      | nil => rfl
      | cons p ps =>
        by_contra hvisible
        have hle := hhead p rfl (Bool.eq_false_iff.2 hvisible) q List.mem_cons_self hblank
        have hlt := hq p (hsub.subset List.mem_cons_self)
        omega
  | @cons_cons ps qs q hsub ih =>
    obtain ⟨hq, hqs⟩ := List.pairwise_cons.1 hqs
    have hrest : ∀ b ∈ qs, isBlank b.1 = true → bridged ps b.2 = false := by
      intro b hb hblank
      have hgap := hgap b (List.mem_cons_of_mem q hb) hblank
      cases ps with
      | nil => rfl
      | cons p ps => exact (Bool.or_eq_false_iff.1 hgap).2
    obtain ⟨hparts, hgoes⟩ := ih hqs hrest
    cases hblank : isBlank q.1 with
    | true =>
      have hparts : PartsOf (words (q.1 :: letters ps)) (words (letters qs)) := by
        rwa [words_of_isBlank hblank]
      exact ⟨hparts.words_cons q.1, fun _ => .of_isBlank hblank hblank hparts⟩
    | false =>
      have hhead : ∀ p, ps.head? = some p → isBlank p.1 = false →
          ∀ b ∈ qs, isBlank b.1 = true → p.2 ≤ b.2 := by
        intro p hp hvisible b hb hblank'
        have hgap := hgap b (List.mem_cons_of_mem q hb) hblank'
        have hlt := hq b hb
        cases ps with
        | nil => cases hp
        | cons r rs =>
          obtain rfl := Option.some.inj hp
          simp only [bridged, hblank, hvisible, hlt, Bool.or_eq_false_iff, Bool.not_false,
            Bool.true_and, decide_true, decide_eq_false_iff_not] at hgap
          omega
      have hgoes := hgoes hhead
      exact ⟨hgoes.partsOf hblank, fun _ => hgoes.cons hblank⟩

/-! ### White space that is kept -/

/-- What the passes keep of a command without its mention of a time. -/
def kept (text : List Char) : List (Char × Nat) := placedStrip (placedRest text)

/-- A command without the white space that lies between two neighbours of what is kept. -/
def joined (text : List Char) : List (Char × Nat) :=
  (placed text).filter fun p => !(isBlank p.1 && bridged (kept text) p.2)

/-- A place in the mention of a time, or in one `next week` that is taken out as a whole. -/
inductive IsTakenOut (text : List Char) (p : Char × Nat) : Prop where
  | mention {m : TimeMention} (found : TimeMention.find text = some m)
      (first : m.before.length ≤ p.2) (last : p.2 < m.before.length + m.matched.length)
  | nextWeek {s : Stretch (Char × Nat)} (whole : s.whole = placedRest text)
      (reads : (letters s.items).map fold = "next week".toList)
      (gone : ∀ q ∈ s.items, q ∉ keptBy dayWords (placedRest text)) (inside : p ∈ s.items)

/-- A character that a pass over words does not keep belongs to a word that goes as a whole. -/
theorem mem_keptBy_or_exists_word {words : List (List Char)} (hne : ∀ word ∈ words, word ≠ [])
    (hnodup : ps.Nodup) (hp : p ∈ ps) : p ∈ keptBy words ps ∨
      ∃ s : Stretch (Char × Nat), s.whole = ps ∧ (letters s.items).map fold ∈ words ∧
        (∀ q ∈ s.items, q ∉ keptBy words ps) ∧ p ∈ s.items := by
  obtain ⟨c, rfl, hafter, hpieces, -⟩ := exists_cutting_words hne (fold ∘ Prod.fst) 0 ps
  have hkept : keptBy words c.before = c.after := by
    rw [hafter, keptBy, letters, List.map_map]
  rw [hkept]
  rcases Cutting.mem_after_or_mem_piece hp with hafter | ⟨s, hs, hmem⟩
  · exact Or.inl hafter
  · refine Or.inr ⟨s, Cutting.whole_of_mem_pieces hs, ?_, ?_, hmem⟩
    · rw [letters, List.map_map]
      exact hpieces s hs
    · exact fun q hq => Cutting.not_mem_after hnodup hs hq

/-- A word that a stretch with a blank reads has a blank in it. -/
theorem any_isBlank_of_mem (hp : p ∈ ps) (hblank : isBlank p.1 = true) :
    ((letters ps).map fold).any isBlank = true := by
  refine List.any_eq_true.2 ⟨fold p.1, List.mem_map_of_mem (List.mem_map_of_mem hp), ?_⟩
  rwa [isBlank_fold]

/-- Only `next week` takes white space with it. -/
theorem eq_nextWeek_of_any_isBlank :
    ∀ word ∈ dayWords, word.any isBlank = true → word = "next week".toList := by
  decide +kernel

theorem any_isBlank_of_mem_weekdayNames : ∀ word ∈ weekdayNames, word.any isBlank = false := by
  decide +kernel

/-- The passes after the first one keep all white space. -/
theorem mem_placedStrip_of_isBlank (hnodup : ps.Nodup) (hp : p ∈ keptBy dayWords ps)
    (hblank : isBlank p.1 = true) : p ∈ placedStrip ps := by
  have hnames : p ∈ keptBy weekdayNames (keptBy dayWords ps) := by
    rcases mem_keptBy_or_exists_word weekdayNames_ne_nil (hnodup.sublist (keptBy_sublist _ _)) hp
      with hkept | ⟨s, -, hword, -, hmem⟩
    · exact hkept
    · have hany := any_isBlank_of_mem hmem hblank
      rw [any_isBlank_of_mem_weekdayNames _ hword] at hany
      cases hany
  obtain ⟨c, hbefore, hafter, hpieces⟩ :=
    exists_cutting_prepositions Prod.fst false (keptBy weekdayNames (keptBy dayWords ps))
  rw [← hbefore] at hnames
  rcases Cutting.mem_after_or_mem_piece hnames with hkept | ⟨s, hs, hmem⟩
  · rw [hafter] at hkept
    exact hkept
  · have hspelled := ((hpieces s).1 hs).2.preposition.spelled
    have hword := (isWordChar_of_spelled hspelled).2 p.1 (List.mem_map_of_mem hmem)
    rw [isWordChar_of_isBlank hblank] at hword
    cases hword

/-- What stands in a command outside the mention of a time is left without the mention. -/
theorem mem_placedRest_or_isTakenOut {text : List Char} (hp : p ∈ placed text) :
    p ∈ placedRest text ∨ IsTakenOut text p := by
  unfold placedRest
  cases hm : TimeMention.find text with
  | none => exact Or.inl hp
  | some m =>
    have hplace : (placed text)[p.2]? = some p := by
      rw [placed, List.getElem?_zipIdx, List.mk_mem_zipIdx_iff_getElem?.1 hp]
      simp
    by_cases hfirst : p.2 < m.before.length
    · refine Or.inl (List.mem_append_left _ (List.mem_of_getElem? (i := p.2) ?_))
      rw [List.getElem?_take_of_lt hfirst, hplace]
    · by_cases hlast : p.2 < m.before.length + m.matched.length
      · exact Or.inr (.mention hm (by omega) hlast)
      · refine Or.inl (List.mem_append_right _ (List.mem_of_getElem?
          (i := p.2 - (m.before.length + m.matched.length)) ?_))
        rw [List.getElem?_drop, Nat.add_sub_cancel' (by omega), hplace]

/-- White space of a command is kept or is part of what goes with white space. -/
theorem mem_kept_or_isTakenOut {text : List Char} (hp : p ∈ placed text)
    (hblank : isBlank p.1 = true) : p ∈ kept text ∨ IsTakenOut text p := by
  rcases mem_placedRest_or_isTakenOut hp with hrest | htaken
  · have hnodup := (nodup_placed text).sublist (placedRest_sublist text)
    rcases mem_keptBy_or_exists_word dayWords_ne_nil hnodup hrest with
      hkept | ⟨s, hwhole, hword, hgone, hmem⟩
    · exact Or.inl (mem_placedStrip_of_isBlank hnodup hkept hblank)
    · have hreads := eq_nextWeek_of_any_isBlank _ hword (any_isBlank_of_mem hmem hblank)
      exact Or.inr (.nextWeek hwhole hreads hgone hmem)
  · exact Or.inr htaken

/-! ### Titles -/

theorem kept_sublist_placed (text : List Char) : (kept text).Sublist (placed text) :=
  (select_sublist _ _).trans <| (keptBy_sublist _ _).trans <|
    (keptBy_sublist _ _).trans (placedRest_sublist text)

theorem inOrder_placed (text : List Char) : InOrder (placed text) := by
  have hplaces : ((placed text).map Prod.snd).Pairwise (· < ·) := by
    rw [placed, List.zipIdx_map_snd]
    exact List.pairwise_lt_range'
  exact List.pairwise_map.1 hplaces

/-- White space that no longer counts is part of what was taken out. -/
theorem isTakenOut_of_not_mem_joined {text : List Char} (hp : p ∈ placed text)
    (hjoined : p ∉ joined text) :
    isBlank p.1 = true ∧ bridged (kept text) p.2 = true ∧ IsTakenOut text p := by
  have hgone : isBlank p.1 = true ∧ bridged (kept text) p.2 = true := by
    rw [joined, List.mem_filter, not_and, Bool.not_eq_true, Bool.not_eq_false',
      Bool.and_eq_true] at hjoined
    exact hjoined hp
  obtain ⟨hblank, hbridged⟩ := hgone
  refine ⟨hblank, hbridged, (mem_kept_or_isTakenOut hp hblank).resolve_left fun hkept => ?_⟩
  rw [bridged_eq_false ((inOrder_placed text).sublist (kept_sublist_placed text)) hkept] at hbridged
  cases hbridged

/-- The words of what is kept are parts of the words of the joined command. -/
theorem partsOf_words_joined (text : List Char) :
    PartsOf (words (letters (kept text))) (words (letters (joined text))) := by
  have hplaced := kept_sublist_placed text
  have hinOrder := (inOrder_placed text).sublist hplaced
  have hfilter := hplaced.filter fun p => !(isBlank p.1 && bridged (kept text) p.2)
  rw [List.filter_eq_self.2 fun p hp => by rw [bridged_eq_false hinOrder hp, Bool.and_false]; rfl]
    at hfilter
  refine (partsOf_words hfilter ((inOrder_placed text).sublist List.filter_sublist) ?_).1
  intro b hb hblank
  simpa [hblank] using (List.mem_filter.1 hb).2

/-- A trace that is not empty spells the title. -/
theorem title_eq_of_trace {command title : String} {now : Instant} {draft : Draft}
    (h : draft? command now = some draft) (htrace : letters (trace command.toList) = title.toList)
    (hne : title ≠ "") : draft.title = title := by
  have htitle := title_of_draft? h
  rw [if_neg, htrace, String.ofList_toList] at htitle
  · exact htitle
  · intro hnil
    rw [hnil] at htrace
    exact hne (String.toList_eq_nil_iff.1 htrace.symm)

theorem exists_draft {command : String} (hvisible : isBlankText command = false) (now : Instant) :
    ∃ draft, draft? command now = some draft := by
  rw [draft?, interpret, hvisible]
  exact ⟨_, rfl⟩

/-- A title that is not the default one is made of the words of what is kept. -/
theorem title_eq_unwords {command : String} {now : Instant} {draft : Draft}
    (h : draft? command now = some draft) (htitle : draft.title ≠ fallback) :
    draft.title.toList = unwords (words (letters (kept command.toList))) := by
  have htrace := title_of_draft? h
  by_cases hnil : trace command.toList = []
  · rw [if_pos hnil] at htrace
    exact absurd htrace htitle
  · rw [if_neg hnil] at htrace
    rw [htrace, String.toList_ofList, letters_trace, kept, letters_placedStrip]

/-- A title of one word that is a part of no word of its command is not in order. -/
theorem exists_draft_not_in_order {command title : String}
    (hvisible : isBlankText command = false)
    (htrace : letters (trace command.toList) = title.toList) (hempty : title ≠ "")
    (hfallback : title ≠ fallback) (hone : pieces (· == ' ') title.toList = [title.toList])
    (hparts : ∀ v ∈ words command.toList, ¬ title.toList.Sublist v) (now : Instant) :
    ∃ draft, draft? command now = some draft ∧ draft.title = title ∧ draft.title ≠ fallback ∧
      ¬ PartsOf (pieces (· == ' ') draft.title.toList) (words command.toList) := by
  obtain ⟨draft, hdraft⟩ := exists_draft hvisible now
  have htitle := title_eq_of_trace hdraft htrace hempty
  refine ⟨draft, hdraft, htitle, htitle ▸ hfallback, ?_⟩
  rw [htitle, hone]
  exact not_partsOf_singleton hparts

/--
CORRECT: every command that is not blank has a draft. If its title is not the default one, the words
of the title are parts of words of the joined command, in order. White space that goes with nothing
else is kept, and the title is made of the words between it. Only white space between two neighbours
of what is kept does not count in the joined command, and all of it went with the mention of a time
or with `next week`; where none went between two neighbours, the words of the title are parts of
words of the command itself.
-/
theorem words_in_order {command : String} (hvisible : isBlankText command = false) (now : Instant) :
    ∃ draft, draft? command now = some draft ∧ (draft.title ≠ fallback →
      PartsOf (pieces (· == ' ') draft.title.toList) (words (letters (joined command.toList))) ∧
      (∀ p ∈ placed command.toList, p ∉ joined command.toList → isBlank p.1 = true ∧
        bridged (kept command.toList) p.2 = true ∧ IsTakenOut command.toList p) ∧
      (kept command.toList).Sublist (placed command.toList) ∧
      (∀ p ∈ placed command.toList, isBlank p.1 = true → ¬ IsTakenOut command.toList p →
        p ∈ kept command.toList) ∧
      draft.title.toList = unwords (words (letters (kept command.toList))) ∧
      ((∀ p ∈ placed command.toList, isBlank p.1 = true → IsTakenOut command.toList p →
          bridged (kept command.toList) p.2 = false) →
        PartsOf (pieces (· == ' ') draft.title.toList) (words command.toList))) := by
  obtain ⟨draft, hdraft⟩ := exists_draft hvisible now
  refine ⟨draft, hdraft, fun htitle => ?_⟩
  have hwords := title_eq_unwords hdraft htitle
  have hparts := partsOf_words_joined command.toList
  have hpieces : pieces (· == ' ') draft.title.toList = words (letters (kept command.toList)) := by
    rw [hwords]
    exact pieces_unwords fun w hw => mem_pieces hw
  rw [← hpieces] at hparts
  refine ⟨hparts, fun p => isTakenOut_of_not_mem_joined, kept_sublist_placed _,
    fun p hp hblank htaken => (mem_kept_or_isTakenOut hp hblank).resolve_right htaken, hwords,
    fun hnone => ?_⟩
  have hsame : joined command.toList = placed command.toList := by
    refine List.filter_eq_self.2 fun p hp => ?_
    by_contra hgone
    have hjoined : p ∉ joined command.toList := fun h => hgone (List.mem_filter.1 h).2
    obtain ⟨hblank, hbridged, htaken⟩ := isTakenOut_of_not_mem_joined hp hjoined
    rw [hnone p hp hblank htaken] at hbridged
    cases hbridged
  rwa [hsame, letters_placed] at hparts

/-- The white space of `next week` still counts where some in front of it is kept. -/
theorem words_in_order_plan :
    ∃ draft, draft? "Plan next weekend with Ann"
        { date := { year := 2024, month := 1, day := 1 }, time := { hour := 8, minute := 0 },
          second := 0 } = some draft ∧
      draft.title = "Plan end with Ann" ∧ draft.title ≠ fallback ∧
      PartsOf (pieces (· == ' ') draft.title.toList)
        (words "Plan next weekend with Ann".toList) := by
  have htrace : letters (trace "Plan next weekend with Ann".toList) =
      "Plan end with Ann".toList := by
    decide +kernel
  have hnone : ∀ p ∈ placed "Plan next weekend with Ann".toList,
      bridged (kept "Plan next weekend with Ann".toList) p.2 = false := by
    decide +kernel
  have hvisible : isBlankText "Plan next weekend with Ann" = false := by decide +kernel
  obtain ⟨draft, hdraft, hwords⟩ := words_in_order hvisible _
  have htitle := title_eq_of_trace hdraft htrace (by decide)
  have hne : draft.title ≠ fallback := by
    rw [htitle]
    decide
  obtain ⟨-, -, -, -, -, hparts⟩ := hwords hne
  exact ⟨draft, hdraft, htitle, hne, hparts fun p hp _ _ => hnone p hp⟩

/--
Two words become one where `next week` stands between them with no white space around it, and where
the white space between them is inside the mention of a time.
-/
theorem words_not_in_order :
    (∃ draft, draft? "Pre-next weekend"
        { date := { year := 2024, month := 1, day := 1 }, time := { hour := 8, minute := 0 },
          second := 0 } = some draft ∧
      draft.title = "Pre-end" ∧ draft.title ≠ fallback ∧
      ¬ PartsOf (pieces (· == ' ') draft.title.toList) (words "Pre-next weekend".toList)) ∧
    (∃ draft, draft? "Q3 p.m.review"
        { date := { year := 2024, month := 1, day := 1 }, time := { hour := 8, minute := 0 },
          second := 0 } = some draft ∧
      draft.title = "Qreview" ∧ draft.title ≠ fallback ∧
      ¬ PartsOf (pieces (· == ' ') draft.title.toList) (words "Q3 p.m.review".toList)) := by
  have hnextWeek : words "Pre-next weekend".toList = ["Pre-next".toList, "weekend".toList] := by
    decide +kernel
  have hmention : words "Q3 p.m.review".toList = ["Q3".toList, "p.m.review".toList] := by
    decide +kernel
  constructor
  · refine exists_draft_not_in_order (by decide +kernel) (by decide +kernel) (by decide) (by decide)
      (by decide +kernel) ?_ _
    rw [hnextWeek]
    decide
  · refine exists_draft_not_in_order (by decide +kernel) (by decide +kernel) (by decide) (by decide)
      (by decide +kernel) ?_ _
    rw [hmention]
    decide

end Agenda.Command.Title
