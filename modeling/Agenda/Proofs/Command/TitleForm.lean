import Agenda.Proofs.Command.Stages

/-!
The form of a title. Whatever the text and the span, a title has a visible character at both ends,
single spaces between its words and no other blanks. No preposition stands alone in it either: the
pass over prepositions leaves none, and bringing blanks down to single spaces changes nothing for
its neighbours, since every blank ends a word as every other blank does. CORRECT: every title has
this form.

    strip     \t at-home \t office  on-call \n      no preposition is next to a blank only
    squeeze   at-home office on-call
-/

namespace Agenda.Text

/-! ### Single spaces -/

/-- A text with single spaces for blanks, and none at its end. -/
structure SingleSpaced (cs : List Char) : Prop where
  spaces : ∀ c ∈ cs, isBlank c = true → c = ' '
  single : ¬ [' ', ' '] <:+: cs
  last : ∀ c, cs.getLast? = some c → isBlank c = false

theorem SingleSpaced.cons {c : Char} {cs : List Char} (hc : isBlank c = false)
    (h : SingleSpaced cs) : SingleSpaced (c :: cs) := by
  refine ⟨List.forall_mem_cons.2 ⟨fun hblank => ?_, h.spaces⟩, fun hin => ?_, fun d hd => ?_⟩
  · rw [hc] at hblank
    cases hblank
  · rcases List.infix_cons_iff.1 hin with hprefix | hin
    · obtain ⟨rfl, -⟩ := List.cons_prefix_cons.1 hprefix
      exact absurd hc (by decide)
    · exact h.single hin
  · cases cs with
    | nil =>
      obtain rfl : c = d := by simpa using hd
      exact hc
    | cons e es => exact h.last d (by simpa [List.getLast?_cons_cons] using hd)

theorem SingleSpaced.space {c : Char} {cs : List Char} (hc : isBlank c = false)
    (h : SingleSpaced (c :: cs)) : SingleSpaced (' ' :: c :: cs) := by
  refine ⟨List.forall_mem_cons.2 ⟨fun _ => rfl, h.spaces⟩, fun hin => ?_, fun d hd => ?_⟩
  · rcases List.infix_cons_iff.1 hin with hprefix | hin
    · obtain ⟨-, hprefix⟩ := List.cons_prefix_cons.1 hprefix
      obtain ⟨rfl, -⟩ := List.cons_prefix_cons.1 hprefix
      exact absurd hc (by decide)
    · exact h.single hin
  · exact h.last d (by simpa [List.getLast?_cons_cons] using hd)

/-- The pass over blanks leaves single spaces. -/
theorem singleSpaced_squeeze (cs : List Char) : SingleSpaced (squeeze cs) := by
  induction cs with
  | nil => exact ⟨by simp [squeeze], by simp [squeeze], by simp [squeeze]⟩
  | cons c cs ih =>
    cases hc : isBlank c with
    | false =>
      rw [squeeze_of_not_isBlank hc]
      exact ih.cons hc
    | true =>
      rw [squeeze, if_pos hc]
      cases cs with
      | nil => exact ih
      | cons d ds =>
        cases hd : isBlank d with
        | true =>
          rw [blankAhead, hd, if_pos rfl]
          exact ih
        | false =>
          rw [squeeze_of_not_isBlank hd] at ih ⊢
          rw [blankAhead, hd, if_neg Bool.false_ne_true]
          exact ih.space hd

/-! ### Blanks and word characters -/

/-- The code points of the blanks, one by one. -/
def blankCodes : List Nat :=
  [0x9, 0xA, 0xB, 0xC, 0xD, 0x20, 0x85, 0xA0, 0x1680, 0x2000, 0x2001, 0x2002, 0x2003, 0x2004,
    0x2005, 0x2006, 0x2007, 0x2008, 0x2009, 0x200A, 0x2028, 0x2029, 0x202F, 0x205F, 0x3000]

theorem toNat_mem_blankCodes {c : Char} (h : isBlank c = true) : c.toNat ∈ blankCodes := by
  simp only [isBlank, Bool.or_eq_true, Bool.and_eq_true, decide_eq_true_eq, beq_iff_eq] at h
  simp only [blankCodes, List.mem_cons, List.not_mem_nil, or_false]
  omega

/-- What holds of the listed code points holds of every blank. -/
theorem of_blankCodes (p : Char → Prop) (h : ∀ n ∈ blankCodes, p (Char.ofNat n)) {c : Char}
    (hc : isBlank c = true) : p c := by
  rw [← Char.ofNat_toNat c]
  exact h _ (toNat_mem_blankCodes hc)

/-- No blank is a word character. -/
theorem isWordChar_of_isBlank {c : Char} (h : isBlank c = true) : isWordChar c = false := by
  have hall : ∀ n ∈ blankCodes, isWordChar (Char.ofNat n) = false := by decide +kernel
  exact of_blankCodes (fun c => isWordChar c = false) hall h

theorem endsWord_of_isBlank {c : Char} (h : isBlank c = true) (cs : List Char) :
    endsWord (c :: cs) = true := by
  rw [endsWord, isWordChar_of_isBlank h, Bool.not_false]

/-- A word ends in front of blanks as it does in front of the space that stands for them. -/
theorem endsWord_squeeze (cs : List Char) : endsWord (squeeze cs) = endsWord cs := by
  cases cs with
  | nil => rfl
  | cons c cs =>
    cases hc : isBlank c with
    | false =>
      rw [squeeze_of_not_isBlank hc]
      rfl
    | true =>
      rw [endsWord_of_isBlank hc, squeeze_of_isBlank hc]
      split
      · rfl
      · exact endsWord_of_isBlank rfl _

end Agenda.Text

namespace Agenda.Command.Title
open Agenda.Text

/-! ### Prepositions and blanks -/

/-- Where no word goes on behind a character no preposition begins with it. -/
theorem beginsWithPreposition_of_endsWord {cs : List Char} (h : endsWord cs = true) (c : Char) :
    beginsWithPreposition (c :: cs) = false := by
  rw [Bool.eq_false_iff]
  intro hbegins
  obtain ⟨a, b, rest, hcons, -⟩ := (beginsWithPreposition_iff _).1 hbegins
  obtain ⟨rfl, rfl⟩ := List.cons.inj hcons
  rw [endsWord, (isWordChar_of_beginsWithPreposition hbegins).2] at h
  cases h

/-- A preposition begins where it began before blanks were brought down to single spaces. -/
theorem beginsWithPreposition_squeeze (c : Char) (cs : List Char) :
    beginsWithPreposition (c :: squeeze cs) = beginsWithPreposition (c :: cs) := by
  cases cs with
  | nil => rfl
  | cons d ds =>
    cases hd : isBlank d with
    | false =>
      rw [squeeze_of_not_isBlank hd]
      exact beginsWithPreposition_congr (endsWord_squeeze ds) c d
    | true =>
      have hends := endsWord_of_isBlank hd ds
      rw [beginsWithPreposition_of_endsWord hends, beginsWithPreposition_of_endsWord]
      rw [endsWord_squeeze, hends]

/-- A blank is no part of a preposition, and one may begin behind it. -/
theorem hasPreposition_of_isBlank {c : Char} (h : isBlank c = true) (inWord : Bool)
    (cs : List Char) : hasPreposition inWord (c :: cs) = hasPreposition false cs := by
  rw [hasPreposition_of_endsWord (endsWord_of_isBlank h cs), hasPreposition,
    isWordChar_of_isBlank h]
  rfl

/-- The pass over blanks neither makes a preposition nor takes one away. -/
theorem hasPreposition_squeeze (inWord : Bool) (cs : List Char) :
    hasPreposition inWord (squeeze cs) = hasPreposition inWord cs := by
  induction cs generalizing inWord with
  | nil => rfl
  | cons c cs ih =>
    cases hc : isBlank c with
    | false =>
      rw [squeeze_of_not_isBlank hc, hasPreposition, hasPreposition,
        beginsWithPreposition_squeeze, ih]
    | true =>
      rw [hasPreposition_of_isBlank hc, squeeze, if_pos hc]
      cases cs with
      | nil => rfl
      | cons d ds =>
        cases hd : isBlank d with
        | true =>
          rw [blankAhead, hd, if_pos rfl, ih, hasPreposition_of_isBlank hd,
            hasPreposition_of_isBlank hd]
        | false =>
          rw [blankAhead, hd, if_neg Bool.false_ne_true, hasPreposition_of_isBlank rfl, ih]

/-- Blanks at the front neither make a preposition nor take one away. -/
theorem hasPreposition_skipBlanks (cs : List Char) :
    hasPreposition false (skipBlanks cs) = hasPreposition false cs := by
  induction cs with
  | nil => rfl
  | cons c cs ih =>
    cases hc : isBlank c with
    | true =>
      have hskip : skipBlanks (c :: cs) = skipBlanks cs := by simp [skipBlanks, hc]
      rw [hskip, ih, hasPreposition_of_isBlank hc]
    | false =>
      have hskip : skipBlanks (c :: cs) = c :: cs := by simp [skipBlanks, hc]
      rw [hskip]

/-! ### Titles -/

/-- A text with a visible character at both ends, single spaces, and no preposition alone. -/
structure IsTitle (cs : List Char) : Prop extends SingleSpaced cs where
  nonempty : cs ≠ []
  first : ∀ c, cs.head? = some c → isBlank c = false
  plain : ∀ s : Stretch Char, s.whole = cs → ¬ IsPreposition s

theorem isTitle_fallback : IsTitle fallback.toList := by
  have hsqueeze : squeeze fallback.toList = fallback.toList := by decide
  refine ⟨hsqueeze ▸ singleSpaced_squeeze _, by decide, ?_, ?_⟩
  · rintro c ⟨⟩
    decide
  · exact not_isPreposition_of_hasPreposition (by decide +kernel)

/-- What is left of a command without its time makes a title. -/
theorem isTitle_ofRest (rest : List Char) : IsTitle (ofRest rest).toList := by
  rw [ofRest]
  rcases unwords_words_cases (strip rest) with ⟨-, hnil⟩ | ⟨c, cs, hcons, hc⟩
  · rw [hnil]
    exact isTitle_fallback
  · have hsqueeze : squeeze (skipBlanks (strip rest)) = c :: cs := by rw [← unwords_words, hcons]
    have hspaced := singleSpaced_squeeze (skipBlanks (strip rest))
    have hplain : hasPreposition false (c :: cs) = false := by
      rw [← hsqueeze, hasPreposition_squeeze, hasPreposition_skipBlanks, strip,
        hasPreposition_dropPrepositions]
    rw [hsqueeze] at hspaced
    rw [hcons]
    simp only [String.toList_ofList]
    refine { hspaced with
      nonempty := List.cons_ne_nil c cs
      first := ?_
      plain := not_isPreposition_of_hasPreposition hplain }
    rintro d ⟨⟩
    exact hc

/--
CORRECT: between any two places of a text a title is found, the second place before the first one or
not, and it has a visible character at both ends, single spaces for blanks, and no preposition that
stands alone.
-/
theorem extract_has_title_form {text : List Char} {span : Option (Nat × Nat)}
    (hspan : ∀ p ∈ span, AtBoundary text p.1 ∧ AtBoundary text p.2) :
    ∃ title, extract? text span = some title ∧ IsTitle title.toList := by
  rcases span with _ | ⟨first, last⟩
  · exact ⟨_, rfl, isTitle_ofRest text⟩
  · obtain ⟨⟨before, after, htext, rfl⟩, before', after', htext', rfl⟩ := hspan _ rfl
    exact ⟨_, cut?_eq htext htext', isTitle_ofRest _⟩

/-- A span whose second place comes first: the part between its places is there twice. -/
theorem extract_has_title_form_tea :
    (AtBoundary "Tea\u2003at four".toList 8 ∧ AtBoundary "Tea\u2003at four".toList 3) ∧
      ∃ title, extract? "Tea\u2003at four".toList (some (8, 3)) = some title ∧
        IsTitle title.toList ∧ title = "Tea four" := by
  have hfirst : AtBoundary "Tea\u2003at four".toList 8 :=
    ⟨"Tea\u2003at".toList, " four".toList, by decide, by decide⟩
  have hlast : AtBoundary "Tea\u2003at four".toList 3 :=
    ⟨"Tea".toList, "\u2003at four".toList, by decide, by decide⟩
  have hspan : ∀ p ∈ some (8, 3), AtBoundary "Tea\u2003at four".toList p.1 ∧
      AtBoundary "Tea\u2003at four".toList p.2 := by
    rintro p ⟨⟩
    exact ⟨hfirst, hlast⟩
  obtain ⟨title, hextract, hform⟩ := extract_has_title_form hspan
  have htea : extract? "Tea\u2003at four".toList (some (8, 3)) = some "Tea four" := by
    decide +kernel
  exact ⟨⟨hfirst, hlast⟩, title, hextract, hform, Option.some.inj (hextract.symm.trans htea)⟩

end Agenda.Command.Title
