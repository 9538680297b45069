import Agenda.Proofs.Command.Offer
import Agenda.Proofs.Command.Removal
import Agenda.Proofs.Text.AsciiCase
import Agenda.Proofs.Text.Cutting

/-!
The prepositions that stand alone in a text. `IsPreposition` says of a stretch that it is `at` or
`on` in some letter case and that no word character is next to it. What is next to such a stretch
never belongs to another one, so that taking one out neither makes nor uncovers another. CORRECT:
the pass over prepositions takes out exactly the stretches of this kind, and leaves none.

    text     stand at the on-ramp, on notes
    pieces         at     on       on
    after    stand  the -ramp,  notes
-/

namespace Agenda.Command.Title
open Agenda.Text

/-- The prepositions that are no part of a title. -/
def prepositions : List (List Char) := ["at".toList, "on".toList]

/-- `at` or `on` in some ASCII letter case, with no word character directly before or after it. -/
structure IsPreposition (s : Stretch Char) : Prop where
  spelled : s.items.map Char.toLower ∈ prepositions
  starts : ∀ c, s.lead.getLast? = some c → isWordChar c = false
  ends : ∀ c, s.after.head? = some c → isWordChar c = false

/-- A preposition in a text that stands behind another one, which may end inside a word. -/
structure IsPrepositionFrom (inWord : Bool) (s : Stretch Char) : Prop where
  preposition : IsPreposition s
  fresh : s.lead = [] → inWord = false

/-! ### One preposition -/

/-- Other letters than `s` and `k` are folded as ASCII letters are made small. -/
theorem fold_eq_iff {l : Char} (hl : fold l = l) (hs : l ≠ 's') (hk : l ≠ 'k') (c : Char) :
    fold c = l ↔ c.toLower = l := by
  constructor
  · intro h
    exact toLower_of_fold h hs hk
  · rintro rfl
    rwa [fold_toLower] at hl

/-- A text begins with a preposition iff two letters spell one and no word character follows. -/
theorem beginsWithPreposition_iff (cs : List Char) :
    beginsWithPreposition cs = true ↔ ∃ a b rest, cs = a :: b :: rest ∧
      [a, b].map Char.toLower ∈ prepositions ∧ ∀ c, rest.head? = some c → isWordChar c = false := by
  have ha := fold_eq_iff (l := 'a') (by decide) (by decide) (by decide)
  have ht := fold_eq_iff (l := 't') (by decide) (by decide) (by decide)
  have ho := fold_eq_iff (l := 'o') (by decide) (by decide) (by decide)
  have hn := fold_eq_iff (l := 'n') (by decide) (by decide) (by decide)
  rcases cs with _ | ⟨a, _ | ⟨b, rest⟩⟩
  · simp [beginsWithPreposition, beginsWith]
  · simp [beginsWithPreposition, beginsWith]
  · simp [beginsWithPreposition, beginsWith, prepositions, ha, ht, ho, hn, endsWord_iff]

/-- The letters of prepositions are word characters. -/
theorem isWordChar_of_spelled {items : List Char} (h : items.map Char.toLower ∈ prepositions) :
    items.length = 2 ∧ ∀ c ∈ items, isWordChar c = true := by
  have hall : ∀ word ∈ prepositions, word.length = 2 ∧ word.all isWordChar = true := by decide
  obtain ⟨hlength, hword⟩ := hall _ h
  refine ⟨by simpa using hlength, fun c hc => ?_⟩
  rw [← isWordChar_toLower]
  exact List.all_eq_true.1 hword _ (List.mem_map_of_mem hc)

/-- Behind one more character a preposition is one still, unless a word runs into it. -/
theorem isPrepositionFrom_behind_iff (inWord : Bool) (d : Char) (s : Stretch Char) :
    IsPrepositionFrom inWord (s.behind [d]) ↔ IsPrepositionFrom (isWordChar d) s := by
  have hlast : (s.behind [d]).lead.getLast? = some (s.lead.getLast?.getD d) := by
    cases hlead : s.lead with
    | nil => simp [Stretch.behind, hlead]
    | cons l ls => simp [Stretch.behind, hlead, List.getLast?_cons]
  constructor
  · rintro ⟨⟨hspelled, hstarts, hends⟩, -⟩
    have hstart := hstarts _ hlast
    refine ⟨⟨hspelled, fun c hc => ?_, hends⟩, fun hlead => ?_⟩
    · rwa [hc] at hstart
    · rwa [hlead] at hstart
  · rintro ⟨⟨hspelled, hstarts, hends⟩, hfresh⟩
    refine ⟨⟨hspelled, fun c hc => ?_, hends⟩, fun hlead => absurd hlead (List.cons_ne_nil d _)⟩
    rw [hlast, Option.some.injEq] at hc
    subst hc
    cases hc : s.lead.getLast? with
    | none => exact hfresh (List.getLast?_eq_none_iff.1 hc)
    | some l => exact hstarts l hc

/-- At the front of a text only its first two characters are a preposition. -/
theorem isPrepositionFrom_front_iff {inWord : Bool} {s : Stretch Char} (hlead : s.lead = []) :
    IsPrepositionFrom inWord s ↔
      (!inWord && beginsWithPreposition s.whole) = true ∧ s.items.length = 2 := by
  rw [Bool.and_eq_true, Bool.not_eq_true', beginsWithPreposition_iff]
  obtain ⟨lead, items, after⟩ := s
  obtain rfl : lead = [] := hlead
  constructor
  · rintro ⟨⟨hspelled, -, hends⟩, hfresh⟩
    obtain ⟨hlength, -⟩ := isWordChar_of_spelled hspelled
    obtain ⟨a, b, rfl⟩ := List.length_eq_two.1 hlength
    exact ⟨⟨hfresh rfl, a, b, after, rfl, hspelled, hends⟩, rfl⟩
  · rintro ⟨⟨hfresh, a, b, rest, hwhole, hspelled, hends⟩, hlength⟩
    obtain ⟨c, d, rfl⟩ := List.length_eq_two.1 hlength
    simp only [Stretch.whole, List.nil_append, List.cons_append, List.cons.injEq] at hwhole
    obtain ⟨rfl, rfl, rfl⟩ := hwhole
    exact ⟨⟨hspelled, by simp, hends⟩, fun _ => hfresh⟩

/-! ### All prepositions -/

section Pieces
variable {α : Type} {f : α → Char} {inWord : Bool} {s : Stretch α}

/-- No preposition stands in the empty text. -/
theorem not_isPrepositionFrom_of_nil (h : s.whole = []) : ¬ IsPrepositionFrom inWord (s.map f) := by
  rintro ⟨⟨hspelled, -, -⟩, -⟩
  have hlength := (isWordChar_of_spelled hspelled).1
  simp only [Stretch.whole, List.append_eq_nil_iff] at h
  simp [Stretch.map, h.2.1] at hlength

/-- A preposition in a text stands at the front of it, or behind the first character. -/
theorem isPrepositionFrom_cons_iff {a : α} {as : List α} :
    (s.whole = a :: as ∧ IsPrepositionFrom inWord (s.map f)) ↔
      ((!inWord && beginsWithPreposition (f a :: as.map f)) = true ∧
        s = { lead := [], items := (a :: as).take 2, after := (a :: as).drop 2 }) ∨
      ∃ t : Stretch α, (t.whole = as ∧ IsPrepositionFrom (isWordChar (f a)) (t.map f)) ∧
        t.behind [a] = s := by
  constructor
  · rintro ⟨hwhole, hprep⟩
    cases hlead : s.lead with
    | nil =>
      obtain ⟨hbegins, hlength⟩ :=
        (isPrepositionFrom_front_iff (s := s.map f) (by simp [Stretch.map, hlead])).1 hprep
      rw [Stretch.whole_map, hwhole, List.map_cons] at hbegins
      refine Or.inl ⟨hbegins, ?_⟩
      have hlength : s.items.length = 2 := by simpa [Stretch.map] using hlength
      rw [← hwhole, Stretch.whole, hlead, List.nil_append, ← hlength, List.take_left,
        List.drop_left, ← hlead]
    | cons l ls =>
      have hbehind : s.whole = [a] ++ as := hwhole
      obtain ⟨t, ht, rfl⟩ := Stretch.exists_behind hbehind (by simp [hlead])
      rw [Stretch.map_behind, List.map_singleton, isPrepositionFrom_behind_iff] at hprep
      exact Or.inr ⟨t, ⟨ht, hprep⟩, rfl⟩
  · rintro (⟨hbegins, rfl⟩ | ⟨t, ⟨rfl, hprep⟩, rfl⟩)
    · have hwhole : Stretch.whole
          { lead := [], items := (a :: as).take 2, after := (a :: as).drop 2 } = a :: as :=
        List.take_append_drop 2 (a :: as)
      refine ⟨hwhole, (isPrepositionFrom_front_iff rfl).2 ⟨?_, ?_⟩⟩
      · rw [Stretch.whole_map, hwhole, List.map_cons]
        exact hbegins
      · obtain ⟨-, hbegins⟩ := Bool.and_eq_true_iff.1 hbegins
        obtain ⟨c, d, rest, hcons, -⟩ := (beginsWithPreposition_iff _).1 hbegins
        have hlength := congrArg List.length hcons
        simp only [List.length_cons, List.length_map] at hlength
        simp only [Stretch.map, List.length_map, List.length_take, List.length_cons]
        omega
    · refine ⟨Stretch.whole_behind [a] t, ?_⟩
      rw [Stretch.map_behind, List.map_singleton, isPrepositionFrom_behind_iff]
      exact hprep

/-- The pass over prepositions takes out those that stand in a text, and nothing else. -/
theorem exists_cutting_prepositions (f : α → Char) (inWord : Bool) (as : List α) :
    ∃ c : Cutting α, c.before = as ∧
      c.after = select (keepsPrepositions 0 inWord (as.map f)) as ∧
      ∀ s : Stretch α, s ∈ c.pieces ↔ s.whole = as ∧ IsPrepositionFrom inWord (s.map f) := by
  have hnil : ∀ (inWord : Bool) (s : Stretch α),
      ¬ (s.whole = [] ∧ IsPrepositionFrom inWord (s.map f)) := fun _ _ h =>
    not_isPrepositionFrom_of_nil h.1 h.2
  induction as using List.twoStepInduction generalizing inWord with
  | nil => exact ⟨.last [], rfl, rfl, fun s => iff_of_false List.not_mem_nil (hnil inWord s)⟩
  | singleton a =>
    have hb : (!inWord && beginsWithPreposition [f a]) = false := by
      simp [beginsWithPreposition, beginsWith]
    refine ⟨.last [a], rfl, ?_, fun s => iff_of_false List.not_mem_nil ?_⟩
    · rw [List.map_singleton, keepsPrepositions, if_neg (by simp [hb])]
      rfl
    · rw [isPrepositionFrom_cons_iff]
      rintro (⟨hbegins, -⟩ | ⟨t, ht, -⟩)
      · rw [List.map_nil, hb] at hbegins
        cases hbegins
      · exact hnil _ t ht
  | cons_cons a b as ih ih' =>
    cases hb : !inWord && beginsWithPreposition (f a :: (b :: as).map f) with
    | true =>
      -- the letters of the preposition are word characters, so that none begins at the second one
      have hword : isWordChar (f a) = true := by
        obtain ⟨-, hbegins⟩ := Bool.and_eq_true_iff.1 hb
        obtain ⟨c, d, rest, hcons, hspelled, -⟩ := (beginsWithPreposition_iff _).1 hbegins
        rw [(List.cons.inj hcons).1]
        exact (isWordChar_of_spelled hspelled).2 c List.mem_cons_self
      obtain ⟨c, hbefore, hafter, hpieces⟩ := ih (isWordChar (f b))
      refine ⟨.cut [] [a, b] c, ?_, ?_, fun s => ?_⟩
      · rw [Cutting.before, hbefore]
        rfl
      · rw [Cutting.after, hafter, List.map_cons, keepsPrepositions, if_pos hb]
        rfl
      · simp only [isPrepositionFrom_cons_iff, hb, hword, Cutting.pieces, hbefore, hpieces,
          List.mem_cons, List.mem_map]
        constructor
        · rintro (rfl | ⟨t, ht, rfl⟩)
          · exact Or.inl ⟨trivial, rfl⟩
          · exact Or.inr ⟨t.behind [b], Or.inr ⟨t, ht, rfl⟩, rfl⟩
        · rintro (⟨-, rfl⟩ | ⟨_, ⟨hfalse, -⟩ | ⟨t, ht, rfl⟩, rfl⟩)
          · exact Or.inl rfl
          · cases hfalse
          · exact Or.inr ⟨t, ht, rfl⟩
    | false =>
      obtain ⟨c, hbefore, hafter, hpieces⟩ := ih' b (isWordChar (f a))
      refine ⟨c.push a, ?_, ?_, fun s => ?_⟩
      · rw [Cutting.before_push, hbefore]
      · have hstep : keepsPrepositions 0 inWord ((a :: b :: as).map f) =
            true :: keepsPrepositions 0 (isWordChar (f a)) ((b :: as).map f) := by
          rw [List.map_cons (l := b :: as), keepsPrepositions, hb, if_neg Bool.false_ne_true]
        rw [Cutting.after_push, hafter, hstep]
        rfl
      · rw [isPrepositionFrom_cons_iff, hb, Cutting.pieces_push]
        simp [hpieces]

end Pieces

/-! ### No preposition is left -/

/-- Whether one stands alone in a text, and that a stretch of the text is one, is the same. -/
theorem hasPreposition_iff (inWord : Bool) (cs : List Char) :
    hasPreposition inWord cs = true ↔
      ∃ s : Stretch Char, s.whole = cs ∧ IsPrepositionFrom inWord s := by
  induction cs generalizing inWord with
  | nil =>
    refine iff_of_false Bool.false_ne_true ?_
    rintro ⟨s, hs, hprep⟩
    exact not_isPrepositionFrom_of_nil (f := id) hs (by rwa [Stretch.map_id])
  | cons c cs ih =>
    have hcons := fun s => @isPrepositionFrom_cons_iff Char id inWord s c cs
    simp only [Stretch.map_id, id_eq, List.map_id] at hcons
    rw [hasPreposition, Bool.or_eq_true, ih]
    simp only [hcons]
    constructor
    · rintro (hbegins | ⟨t, ht⟩)
      · exact ⟨_, Or.inl ⟨hbegins, rfl⟩⟩
      · exact ⟨_, Or.inr ⟨t, ht, rfl⟩⟩
    · rintro ⟨s, ⟨hbegins, -⟩ | ⟨t, ht, -⟩⟩
      · exact Or.inl hbegins
      · exact Or.inr ⟨t, ht⟩

/-- Both letters of a preposition are word characters. -/
theorem isWordChar_of_beginsWithPreposition {a b : Char} {cs : List Char}
    (h : beginsWithPreposition (a :: b :: cs) = true) :
    isWordChar a = true ∧ isWordChar b = true := by
  obtain ⟨c, d, rest, hcons, hspelled, -⟩ := (beginsWithPreposition_iff _).1 h
  obtain ⟨rfl, rfl, -⟩ : a = c ∧ b = d ∧ cs = rest := by simpa using hcons
  have hword := (isWordChar_of_spelled hspelled).2
  exact ⟨hword a (by simp), hword b (by simp)⟩

/-- A character that is not part of a word is kept, and so is every one behind a word character. -/
theorem endsWord_dropPrepositions (cs : List Char) :
    endsWord (dropPrepositions 0 true cs) = endsWord cs := by
  cases cs with
  | nil => rfl
  | cons c cs => rfl

/-- Behind a word character or not, where a word ends no preposition begins. -/
theorem hasPreposition_of_endsWord {cs : List Char} (h : endsWord cs = true) (inWord : Bool) :
    hasPreposition inWord cs = hasPreposition true cs := by
  cases cs with
  | nil => rfl
  | cons c cs =>
    have hbegins : beginsWithPreposition (c :: cs) = false := by
      rw [Bool.eq_false_iff]
      intro hbegins
      obtain ⟨a, b, rest, hcons, -⟩ := (beginsWithPreposition_iff _).1 hbegins
      rw [hcons] at h hbegins
      simp [endsWord, (isWordChar_of_beginsWithPreposition hbegins).1] at h
    rw [hasPreposition, hasPreposition, hbegins, Bool.and_false, Bool.and_false]

/-- Only whether a word ends matters of what follows the letters of a preposition. -/
theorem beginsWithPreposition_congr {cs ds : List Char} (h : endsWord cs = endsWord ds)
    (a b : Char) : beginsWithPreposition (a :: b :: cs) = beginsWithPreposition (a :: b :: ds) := by
  simp [beginsWithPreposition, beginsWith, h]

/-- A preposition that begins at a kept character after the pass began there before the pass. -/
theorem beginsWithPreposition_of_kept {a b : Char} {cs : List Char}
    (h : beginsWithPreposition (a :: dropPrepositions 0 (isWordChar a) (b :: cs)) = true) :
    beginsWithPreposition (a :: b :: cs) = true := by
  obtain ⟨c, d, rest, hcons, -⟩ := (beginsWithPreposition_iff _).1 h
  obtain ⟨rfl, hrest⟩ := List.cons.inj hcons
  rw [hrest] at h
  obtain ⟨ha, hd⟩ := isWordChar_of_beginsWithPreposition h
  rw [ha] at hrest
  obtain ⟨rfl, hkept⟩ : b = d ∧ dropPrepositions 0 (isWordChar b) cs = rest :=
    List.cons.inj hrest
  rw [hd] at hkept
  rwa [← hkept, beginsWithPreposition_congr (endsWord_dropPrepositions cs)] at h

/-- The pass over prepositions leaves none. -/
theorem hasPreposition_dropPrepositions (inWord : Bool) (cs : List Char) :
    hasPreposition inWord (dropPrepositions 0 inWord cs) = false := by
  induction cs using List.twoStepInduction generalizing inWord with
  | nil => rfl
  | singleton a =>
    have hb : beginsWithPreposition [a] = false := by simp [beginsWithPreposition, beginsWith]
    simp [dropPrepositions, hasPreposition, hb]
  | cons_cons a b cs ih ih' =>
    cases hb : !inWord && beginsWithPreposition (a :: b :: cs) with
    | true =>
      obtain ⟨-, hbegins⟩ := Bool.and_eq_true_iff.1 hb
      have hword := (isWordChar_of_beginsWithPreposition hbegins).2
      have hends : endsWord cs = true := (Bool.and_eq_true_iff.1 hbegins).2
      rw [dropPrepositions, if_pos hb, dropPrepositions, hword, hasPreposition_of_endsWord]
      · exact ih true
      · rwa [endsWord_dropPrepositions]
    | false =>
      rw [dropPrepositions, hb, if_neg Bool.false_ne_true, hasPreposition, ih', Bool.or_false,
        Bool.eq_false_iff]
      intro hnew
      obtain ⟨hfresh, hbegins⟩ := Bool.and_eq_true_iff.1 hnew
      -- a preposition that begins here after the pass has begun here before
      rw [hfresh, beginsWithPreposition_of_kept hbegins] at hb
      cases hb

/-- Where none stands alone no stretch of the text is a preposition. -/
theorem not_isPreposition_of_hasPreposition {cs : List Char} (h : hasPreposition false cs = false)
    (s : Stretch Char) (hs : s.whole = cs) : ¬ IsPreposition s := by
  intro hprep
  have hfound := (hasPreposition_iff false cs).2 ⟨s, hs, hprep, fun _ => rfl⟩
  rw [h] at hfound
  cases hfound

/-- CORRECT: the pass takes out exactly the prepositions of a text, and leaves none. -/
theorem exists_cutting_dropPrepositions (cs : List Char) :
    ∃ c : Cutting Char, c.before = cs ∧ c.after = dropPrepositions 0 false cs ∧
      (∀ s, s ∈ c.pieces ↔ s.whole = cs ∧ IsPreposition s) ∧
      ∀ s, s.whole = c.after → ¬ IsPreposition s := by
  obtain ⟨c, hbefore, hafter, hpieces⟩ := exists_cutting_prepositions id false cs
  have hfrom : ∀ s : Stretch Char, IsPrepositionFrom false s ↔ IsPreposition s := fun s =>
    ⟨fun h => h.preposition, fun h => ⟨h, fun _ => rfl⟩⟩
  simp only [List.map_id, Stretch.map_id, hfrom] at hafter hpieces
  rw [← dropPrepositions_eq_select] at hafter
  refine ⟨c, hbefore, hafter, hpieces, not_isPreposition_of_hasPreposition ?_⟩
  rw [hafter, hasPreposition_dropPrepositions]

end Agenda.Command.Title
