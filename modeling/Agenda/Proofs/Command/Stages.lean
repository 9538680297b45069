import Agenda.Proofs.Command.Prepositions
import Agenda.Proofs.Command.Provenance

/-!
What a title loses, stage by stage. Every stage is a cutting of what the stage before it leaves: day
words go, then weekday names, then prepositions. A piece is a word of its stage, and a word that is
still there lies across a seam of the same stage, where the pieces of it were brought together.
CORRECT: the title is made of the words of what the stages leave of a text without its span, and if
there is nothing to take out it is made of the words of that text.

    kept        ...sunmondayday lunch on today
    day words   ...sunmondayday lunch on
    weekdays    ...sunday lunch on              sun|day
    at, on      ...sunday lunch
-/

namespace Agenda.Command.Title
open Agenda.Text

/-! ### The text without a span -/

/-- Whether a byte offset is a place between two characters of a text, or one of its ends. -/
def AtBoundary (text : List Char) (offset : Nat) : Prop :=
  ∃ before after, text = before ++ after ∧ byteLength before = offset

/-- The title of a text without the part between two byte offsets, or of the text as a whole. -/
def extract? (text : List Char) : Option (Nat × Nat) → Option String
  | none => some (ofRest text)
  | some (first, last) => cut? text first last

/-- What a text is without the part between two byte offsets, or without any part. -/
inductive IsRest (text : List Char) : Option (Nat × Nat) → List Char → Prop where
  | whole : IsRest text none text
  | part {before part after : List Char} (h : text = before ++ part ++ after) :
      IsRest text (some (byteLength before, byteLength (before ++ part))) (before ++ after)

/-- Two offsets cut a text into what is before the first and what is after the second. -/
theorem cut?_eq {text before after before' after' : List Char} (h : text = before ++ after)
    (h' : text = before' ++ after') :
    cut? text (byteLength before) (byteLength before') = some (ofRest (before ++ after')) := by
  have hfirst := splitAtByte?_byteLength before after
  have hlast := splitAtByte?_byteLength before' after'
  rw [← h] at hfirst
  rw [← h'] at hlast
  rw [cut?, hfirst, hlast]
  rfl

/-- Of two fronts of a text the shorter one in bytes is a front of the other. -/
theorem prefix_of_byteLength_le {text before before' : List Char} (h : before <+: text)
    (h' : before' <+: text) (hle : byteLength before ≤ byteLength before') :
    before <+: before' := by
  rcases List.prefix_or_prefix_of_prefix h h' with hprefix | ⟨more, rfl⟩
  · exact hprefix
  · cases more with
    | nil => simp
    | cons c more =>
      have hc := c.utf8Size_pos
      rw [byteLength_append, byteLength] at hle
      omega

/-- A span between two places of a text leaves a rest, and the title is that of the rest. -/
theorem exists_isRest {text : List Char} {span : Option (Nat × Nat)}
    (hspan : ∀ p ∈ span, AtBoundary text p.1 ∧ AtBoundary text p.2 ∧ p.1 ≤ p.2) :
    ∃ rest, IsRest text span rest ∧ extract? text span = some (ofRest rest) := by
  rcases span with _ | ⟨first, last⟩
  · exact ⟨text, .whole, rfl⟩
  · obtain ⟨⟨before, after, htext, rfl⟩, ⟨before', after', htext', rfl⟩, hle⟩ := hspan _ rfl
    obtain ⟨part, rfl⟩ :=
      prefix_of_byteLength_le ⟨after, htext.symm⟩ ⟨after', htext'.symm⟩ hle
    exact ⟨before ++ after', .part htext', cut?_eq htext htext'⟩

/-! ### Stages -/

/-- A stage takes out words in some letter case; one that is still there lies across a seam. -/
structure RemovesWords (words : List (List Char)) (c : Cutting Char) : Prop where
  pieces : ∀ s ∈ c.pieces, s.items.map fold ∈ words
  left : ∀ s : Stretch Char, s.whole = c.after → s.items.map fold ∈ words →
    ∃ seam ∈ c.seams, s.lead.length < seam ∧ seam < s.lead.length + s.items.length

/-- A stage takes out all prepositions, and there are none when it is over. -/
structure RemovesPrepositions (c : Cutting Char) : Prop where
  pieces : ∀ s : Stretch Char, s ∈ c.pieces ↔ s.whole = c.before ∧ IsPreposition s
  left : ∀ s : Stretch Char, s.whole = c.after → ¬ IsPreposition s

section Words
variable {α : Type} {words : List (List Char)}

/-- The front of a list that reads a word. -/
theorem map_front_eq_word {word : List Char} {f : α → Char} {a : α} {as : List α}
    (hne : word ≠ []) (h : word <+: f a :: as.map f) :
    (a :: as.take (word.length - 1)).map f = word := by
  obtain ⟨l, letters, rfl⟩ := List.exists_cons_of_ne_nil hne
  obtain ⟨rfl, hletters⟩ := List.cons_prefix_cons.1 h
  rw [List.map_cons, List.map_take, List.length_cons, Nat.add_sub_cancel,
    ← List.prefix_iff_eq_take.1 hletters]

/-- A pass over words takes out words, and leaves none in a stretch that it keeps. -/
theorem exists_cutting_words (hne : ∀ word ∈ words, word ≠ []) (f : α → Char) (skip : Nat)
    (as : List α) :
    ∃ c : Cutting α, c.before = as.drop skip ∧
      c.after = select (keeps words skip (as.map f)) as ∧
      (∀ s ∈ c.pieces, s.items.map f ∈ words) ∧
      ∀ kept ∈ c.stretches, ∀ word ∈ words, ¬ word <:+: kept.map f := by
  have hempty : ∀ word ∈ words, ¬ word <:+: ([] : List α).map f := fun word hword hin =>
    hne word hword (List.infix_nil.1 hin)
  -- `skip` items belong to the word before, so that the cutting is one of what is behind them
  induction as generalizing skip with
  | nil =>
    refine ⟨.last [], by simp [Cutting.before], by cases skip <;> rfl,
      fun s hs => absurd hs List.not_mem_nil, fun kept hkept => ?_⟩
    rw [List.mem_singleton.1 hkept]
    exact hempty
  | cons a as ih =>
    cases skip with
    | succ skip => exact ih skip
    | zero =>
      cases hfind : words.find? fun word => word.isPrefixOf (f a :: as.map f) with
      | some word =>
        have hword := List.mem_of_find?_eq_some hfind
        have hprefix : word <+: f a :: as.map f := by
          have hfound := List.find?_some hfind
          exact List.isPrefixOf_iff_prefix.1 hfound
        obtain ⟨c, hbefore, hafter, hpieces, hkept⟩ := ih (word.length - 1)
        refine ⟨.cut [] (a :: as.take (word.length - 1)) c, ?_, ?_, fun s hs => ?_, ?_⟩
        · rw [Cutting.before, hbefore, List.nil_append, List.cons_append, List.take_append_drop]
          rfl
        · rw [List.map_cons, keeps, hfind, Cutting.after, hafter]
          rfl
        · rcases List.mem_cons.1 hs with rfl | hs
          · rw [map_front_eq_word (hne word hword) hprefix]
            exact hword
          · obtain ⟨t, ht, rfl⟩ := List.mem_map.1 hs
            exact hpieces t ht
        · exact List.forall_mem_cons.2 ⟨hempty, hkept⟩
      | none =>
        have hno : ∀ word ∈ words, ¬ word <+: f a :: as.map f := fun word hword hin =>
          List.find?_eq_none.1 hfind word hword (List.isPrefixOf_iff_prefix.2 hin)
        obtain ⟨c, hbefore, hafter, hpieces, hkept⟩ := ih 0
        refine ⟨c.push a, ?_, ?_, fun s hs => ?_, ?_⟩
        · rw [Cutting.before_push, hbefore]
          rfl
        · rw [List.map_cons, keeps, hfind, Cutting.after_push, hafter]
          rfl
        · rw [Cutting.pieces_push] at hs
          obtain ⟨t, ht, rfl⟩ := List.mem_map.1 hs
          exact hpieces t ht
        · obtain ⟨kept, more, hold, hnew, hfront⟩ := Cutting.exists_stretches_push a c
          rw [hold, List.forall_mem_cons] at hkept
          rw [hbefore] at hfront
          refine hnew ▸ List.forall_mem_cons.2 ⟨fun word hword hin => ?_, hkept.2⟩
          rcases List.infix_cons_iff.1 hin with hin | hin
          · exact hno word hword (hin.trans (List.cons_prefix_cons.2 ⟨rfl, hfront.map f⟩))
          · exact hkept.1 word hword hin

end Words

/-- A pass over words is a stage. -/
theorem exists_cutting_dropWords {words : List (List Char)} (hne : ∀ word ∈ words, word ≠ [])
    (text : List Char) :
    ∃ c : Cutting Char, c.before = text ∧ c.after = dropWords words 0 text ∧
      RemovesWords words c := by
  obtain ⟨c, hbefore, hafter, hpieces, hkept⟩ := exists_cutting_words hne fold 0 text
  refine ⟨c, hbefore, by rw [hafter, dropWords_eq_select], hpieces, fun s hs hword => ?_⟩
  rcases Cutting.exists_stretch_or_seam hs with ⟨kept, hmem, hin⟩ | hseam
  · exact absurd (hin.map fold) (hkept kept hmem _ hword)
  · exact hseam

/-- Day words, weekday names and prepositions. -/
def IsRemovable (s : Stretch Char) : Prop :=
  s.items.map fold ∈ dayWords ∨ s.items.map fold ∈ weekdayNames ∨ IsPreposition s

/-- A stage that finds nothing of its kind leaves the text as it is. -/
theorem after_eq_of_not_isRemovable {c : Cutting Char} {text : List Char}
    (hbefore : c.before = text) (hpieces : ∀ s ∈ c.pieces, IsRemovable s)
    (hno : ∀ s : Stretch Char, s.whole = text → ¬ IsRemovable s) : c.after = text := by
  rw [← hbefore]
  refine Cutting.after_eq_before (List.eq_nil_iff_forall_not_mem.2 fun s hs => ?_)
  exact hno s (by rw [Cutting.whole_of_mem_pieces hs, hbefore]) (hpieces s hs)

/-- The words of a text with single spaces between them, or the default title if there are none. -/
def normalised (text : List Char) : String :=
  if allBlank text then fallback else String.ofList (unwords (words text))

/-- The title is what the stages leave, in words. -/
theorem ofRest_eq (rest : List Char) : ofRest rest = normalised (strip rest) := by
  rw [ofRest, normalised]
  rcases unwords_words_cases (strip rest) with ⟨hblank, hnil⟩ | ⟨c, cs, hcons, hc⟩
  · rw [hnil, if_pos hblank]
  · have hvisible : ¬ allBlank (strip rest) = true := by
      rw [← words_eq_nil_iff]
      intro hnil
      rw [hnil] at hcons
      cases hcons
    rw [hcons, if_neg hvisible]

/--
CORRECT: a text without its span goes through three stages. Day words are cut out, then weekday
names, and what is still there of them lies across a seam of its stage; then all prepositions are,
and none is left. The title is made of the words of what is left, or is the default title if that is
blank. A text with nothing to cut out is left as it is.
-/
theorem extract_by_stages {text : List Char} {span : Option (Nat × Nat)}
    (hspan : ∀ p ∈ span, AtBoundary text p.1 ∧ AtBoundary text p.2 ∧ p.1 ≤ p.2) :
    ∃ kept, IsRest text span kept ∧
      ∃ days weekdays prepositions : Cutting Char,
        days.before = kept ∧ weekdays.before = days.after ∧
        prepositions.before = weekdays.after ∧
        RemovesWords dayWords days ∧ RemovesWords weekdayNames weekdays ∧
        RemovesPrepositions prepositions ∧
        extract? text span = some (normalised prepositions.after) ∧
        ((∀ s : Stretch Char, s.whole = kept → ¬ IsRemovable s) →
          extract? text span = some (normalised kept)) := by
  obtain ⟨kept, hrest, hextract⟩ := exists_isRest hspan
  obtain ⟨days, hdays, hdaysAfter, hdaysCut⟩ := exists_cutting_dropWords dayWords_ne_nil kept
  obtain ⟨names, hnames, hnamesAfter, hnamesCut⟩ :=
    exists_cutting_dropWords weekdayNames_ne_nil days.after
  obtain ⟨preps, hpreps, hprepsAfter, hprepsCut, hprepsLeft⟩ :=
    exists_cutting_dropPrepositions names.after
  have hstrip : strip kept = preps.after := by
    rw [strip, ← hdaysAfter, ← hnamesAfter, ← hprepsAfter]
  have htitle : extract? text span = some (normalised preps.after) := by
    rw [hextract, ofRest_eq, hstrip]
  refine ⟨kept, hrest, days, names, preps, hdays, hnames, hpreps, hdaysCut, hnamesCut,
    ⟨by rwa [hpreps], hprepsLeft⟩, htitle, fun hno => ?_⟩
  have hdays' := after_eq_of_not_isRemovable hdays (fun s hs => Or.inl (hdaysCut.pieces s hs)) hno
  rw [hdays'] at hnames
  have hnames' := after_eq_of_not_isRemovable hnames
    (fun s hs => Or.inr (Or.inl (hnamesCut.pieces s hs))) hno
  rw [hnames'] at hpreps hprepsCut
  have hpreps' := after_eq_of_not_isRemovable hpreps
    (fun s hs => Or.inr (Or.inr ((hprepsCut s).1 hs).2)) hno
  rw [htitle, hpreps']

/-- A weekday that its stage brought together is still there in the title. -/
theorem extract_by_stages_sunday :
    (∃ kept, IsRest "Café sunmondayday at 5pm".toList (some (22, 25)) kept ∧
      ∃ days weekdays prepositions : Cutting Char,
        days.before = kept ∧ weekdays.before = days.after ∧
        prepositions.before = weekdays.after ∧
        RemovesWords dayWords days ∧ RemovesWords weekdayNames weekdays ∧
        RemovesPrepositions prepositions ∧
        extract? "Café sunmondayday at 5pm".toList (some (22, 25)) =
          some (normalised prepositions.after)) ∧
      extract? "Café sunmondayday at 5pm".toList (some (22, 25)) = some "Café sunday" := by
  have hspan : ∀ p ∈ some (22, 25), AtBoundary "Café sunmondayday at 5pm".toList p.1 ∧
      AtBoundary "Café sunmondayday at 5pm".toList p.2 ∧ p.1 ≤ p.2 := by
    rintro p ⟨⟩
    exact ⟨⟨"Café sunmondayday at ".toList, "5pm".toList, by decide, by decide⟩,
      ⟨"Café sunmondayday at 5pm".toList, [], by decide, by decide⟩, by decide⟩
  obtain ⟨kept, hrest, days, weekdays, prepositions, hdays, hnames, hpreps, hdaysCut, hnamesCut,
    hprepsCut, htitle, -⟩ := extract_by_stages hspan
  exact ⟨⟨kept, hrest, days, weekdays, prepositions, hdays, hnames, hpreps, hdaysCut, hnamesCut,
    hprepsCut, htitle⟩, by decide⟩

end Agenda.Command.Title
