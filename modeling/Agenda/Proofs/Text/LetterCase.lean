import Mathlib
import Agenda.Text.Caseless
import Agenda.Text.Lowercase

/-!
Two ways to look for a word without regard to letter case: folding every character of the text, or
looking for the word in the lower-cased text. They differ at one character. Both take the Kelvin
sign for a `k`, and the dotted capital I, which becomes two characters, stands for an `i` in neither;
but the long s folds to an `s` and has no other lower case than itself. So a word occurs in the
lower-cased text iff some stretch of the text reads the word without a long s.

             K (Kelvin)     İ          ſ (long s)    other non-ASCII
    fold     k              İ          s             not ASCII
    lower    k              i + dot    ſ             not ASCII
-/

namespace Agenda.Text

/-- The long s. -/
abbrev longS : Char := Char.ofNat 0x17F

/-- The Kelvin sign. -/
abbrev kelvin : Char := Char.ofNat 0x212A

/-- The capital I with a dot. -/
abbrev dottedI : Char := Char.ofNat 0x130

/-- The ASCII characters, the null character left out. -/
def isPlain (c : Char) : Bool := 0 < c.toNat && c.toNat < 0x80

/-- Whether a lower-case word stands somewhere in a text in some letter case. -/
def standsIn (word : List Char) : List Char → Bool
  | [] => word.isEmpty
  | c :: cs => beginsWith word (c :: cs) || standsIn word cs

/-! ### Stretches that read a word -/

theorem standsIn_iff_map (word cs : List Char) :
    standsIn word cs = true ↔ word <:+: cs.map fold := by
  induction cs with
  | nil => simp [standsIn]
  | cons c cs ih =>
    rw [standsIn, Bool.or_eq_true, ih, beginsWith_iff, List.map_cons, List.infix_cons_iff]

/-- A word stands in a text iff some stretch of the text reads it. -/
theorem standsIn_iff (word cs : List Char) :
    standsIn word cs = true ↔ ∃ s, s <:+: cs ∧ s.map fold = word := by
  rw [standsIn_iff_map, List.infix_map_iff]
  constructor
  · rintro ⟨s, hs, rfl⟩
    exact ⟨s, hs, rfl⟩
  · rintro ⟨s, hs, rfl⟩
    exact ⟨s, hs, rfl⟩

theorem beginsWith_eq (word cs : List Char) :
    beginsWith word cs = word.isPrefixOf (cs.map fold) := by
  rw [Bool.eq_iff_iff, beginsWith_iff, List.isPrefixOf_iff_prefix]

/-! ### Characters -/

theorem isPlain_iff {c : Char} : isPlain c = true ↔ 0 < c.toNat ∧ c.toNat < 0x80 := by
  simp [isPlain]

set_option maxRecDepth 4000 in
/-- Every capital beyond ASCII but the Kelvin sign has its small letter beyond ASCII. -/
theorem capitalRows_beyond : ∀ row ∈ capitalRows,
    (row.1 = 0x212A ∧ row.2.1 = 0x212A) ∨ 0x80 ≤ (row.1 : Int) + row.2.2.2 := by
  decide

/-- The small letter of a character beyond ASCII is beyond ASCII, the Kelvin sign's left out. -/
theorem lowerDistance_beyond {n : Nat} (hn : 0x80 ≤ n) (hk : n ≠ 0x212A) :
    0x80 ≤ (n : Int) + lowerDistance n := by
  unfold lowerDistance
  split
  · rename_i first last step distance hfind
    have hrow := List.find?_some hfind
    simp only [Bool.and_eq_true, decide_eq_true_eq] at hrow
    rcases capitalRows_beyond _ (List.mem_of_find?_eq_some hfind) with ⟨h1, h2⟩ | h
    · simp only at h1 h2
      omega
    · simp only at h
      omega
  · omega

theorem isUpper_iff {c : Char} : c.isUpper = true ↔ 65 ≤ c.toNat ∧ c.toNat ≤ 90 := by
  simp [Char.isUpper, UInt32.le_iff_toNat_le]

/-- A capital letter of ASCII folds to its small letter, and ASCII characters fold to ASCII. -/
theorem fold_of_lt {c : Char} (h : c.toNat < 0x80) : fold c = c.toLower := by
  have h1 : c ≠ Char.ofNat 0x17F := by rintro rfl; exact absurd h (by decide)
  have h2 : c ≠ Char.ofNat 0x212A := by rintro rfl; exact absurd h (by decide)
  rw [fold, if_neg h1, if_neg h2]

/-- Small letters beyond ASCII stay beyond ASCII when they are folded, but for two characters. -/
theorem fold_of_le {c : Char} (h : 0x80 ≤ c.toNat) (hs : c ≠ longS) (hk : c ≠ kelvin) :
    fold c = c := by
  have hupper : ¬ c.isUpper = true := by
    rw [isUpper_iff]
    omega
  unfold fold
  rw [if_neg hs, if_neg hk, Char.toLower_eq_of_not_isUpper hupper]

/-- An ASCII character folds to an ASCII character. -/
theorem isPlain_fold {c : Char} (h : isPlain c = true) : isPlain (fold c) = true := by
  rw [fold_of_lt (isPlain_iff.1 h).2]
  by_cases hu : c.isUpper = true
  · have hrange := isUpper_iff.1 hu
    have hvalid : (c.toNat + 32).isValidChar := Or.inl (by omega)
    rw [Char.toLower_eq_of_isUpper hu, isPlain_iff, Char.toNat_ofNat, if_pos hvalid]
    omega
  · rw [Char.toLower_eq_of_not_isUpper hu]
    exact h

/-- Only ASCII characters have a small letter in ASCII. -/
theorem lt_of_isPlain_toLower {c : Char} (h : isPlain c.toLower = true) : c.toNat < 0x80 := by
  by_cases hu : c.isUpper = true
  · have hrange := isUpper_iff.1 hu
    omega
  · rw [Char.toLower_eq_of_not_isUpper hu] at h
    exact (isPlain_iff.1 h).2

/-- The small letter of a character beyond ASCII is beyond ASCII, but for two characters. -/
theorem lowerChar_of_le {c : Char} (h : 0x80 ≤ c.toNat) (hk : c ≠ kelvin) (hi : c ≠ dottedI) :
    ∃ d, lowerChar c = [d] ∧ isPlain d = false := by
  have hk' : c.toNat ≠ 0x212A := by
    intro hc
    exact hk (Char.toNat_inj.1 hc)
  have hbeyond := lowerDistance_beyond h hk'
  refine ⟨Char.ofNat (c.toNat + lowerDistance c.toNat).toNat, ?_, ?_⟩
  · unfold lowerChar
    rw [if_neg (by omega), if_neg hi]
  · rw [Bool.eq_false_iff, Ne, isPlain_iff, Char.toNat_ofNat]
    split <;> omega

/-- The lower case of a character: what it folds to if that is in ASCII, else nothing in ASCII. -/
theorem lowerChar_cases (c : Char) :
    (c ≠ longS ∧ isPlain (fold c) = true ∧ lowerChar c = [fold c]) ∨
    ((c = longS ∨ isPlain (fold c) = false) ∧
      (lowerChar c = ['i', Char.ofNat 0x307] ∨ ∃ d, lowerChar c = [d] ∧ isPlain d = false)) := by
  by_cases hlt : c.toNat < 0x80
  · have hs : c ≠ longS := by rintro rfl; exact absurd hlt (by decide)
    have hlower : lowerChar c = [fold c] := by
      rw [lowerChar, if_pos hlt, fold_of_lt hlt]
    by_cases h0 : 0 < c.toNat
    · exact Or.inl ⟨hs, isPlain_fold (isPlain_iff.2 ⟨h0, hlt⟩), hlower⟩
    · have hc : c = Char.ofNat 0 := Char.toNat_inj.1 (by simpa using h0)
      subst hc
      exact Or.inr ⟨Or.inr (by decide), Or.inr ⟨_, hlower, by decide⟩⟩
  · have hle : 0x80 ≤ c.toNat := Nat.le_of_not_lt hlt
    by_cases hk : c = kelvin
    · subst hk
      exact Or.inl ⟨by decide, by decide, by decide⟩
    · by_cases hi : c = dottedI
      · subst hi
        exact Or.inr ⟨Or.inr (by decide), Or.inl (by decide)⟩
      · refine Or.inr ⟨?_, Or.inr (lowerChar_of_le hle hk hi)⟩
        by_cases hs : c = longS
        · exact Or.inl hs
        · rw [fold_of_le hle hs hk, Bool.eq_false_iff]
          exact Or.inr fun hp => hlt (isPlain_iff.1 hp).2

/-- A word in any ASCII letter case reads the word, without a long s. -/
theorem reads_of_map_toLower {word s : List Char} (hw : word.all isPlain = true)
    (h : s.map Char.toLower = word) : s.map fold = word ∧ longS ∉ s := by
  subst h
  rw [List.all_map] at hw
  have hlt : ∀ c ∈ s, c.toNat < 0x80 := fun c hc =>
    lt_of_isPlain_toLower (List.all_eq_true.1 hw c hc)
  refine ⟨List.map_congr_left fun c hc => fold_of_lt (hlt c hc), fun hmem => ?_⟩
  exact absurd (hlt longS hmem) (by decide)

/-! ### Words in the lower-cased text -/

/-- Words of ASCII characters of which the last is no `i`, as all date words are. -/
def IsAsciiWord (word : List Char) : Prop :=
  word.all isPlain = true ∧ word.getLast? ≠ some 'i'

instance (word : List Char) : Decidable (IsAsciiWord word) := inferInstanceAs (Decidable (_ ∧ _))

theorem IsAsciiWord.tail {c : Char} {word : List Char} (h : IsAsciiWord (c :: word)) :
    IsAsciiWord word := by
  refine ⟨(Bool.and_eq_true_iff.1 h.1).2, ?_⟩
  cases word with
  | nil => simp
  | cons d ds => exact h.2

theorem lowercase_cons (c : Char) (cs : List Char) :
    lowercase (c :: cs) = lowerChar c ++ lowercase cs := rfl

/-- A word at the front of the lower-cased text is read by the front of the text. -/
theorem prefix_of_prefix_lowercase {word cs : List Char} (hw : IsAsciiWord word)
    (h : word <+: lowercase cs) : ∃ s, s <+: cs ∧ s.map fold = word ∧ longS ∉ s := by
  induction word generalizing cs with
  | nil => exact ⟨[], List.nil_prefix, rfl, List.not_mem_nil⟩
  | cons l word ih =>
    cases cs with
    | nil => simp [lowercase] at h
    | cons c cs =>
      have hl : isPlain l = true := (Bool.and_eq_true_iff.1 hw.1).1
      rw [lowercase_cons] at h
      rcases lowerChar_cases c with ⟨hs, -, hc⟩ | ⟨-, hc | ⟨d, hc, hd⟩⟩
      · rw [hc, List.singleton_append, List.cons_prefix_cons] at h
        obtain ⟨s, hpre, hmap, hmem⟩ := ih hw.tail h.2
        refine ⟨c :: s, List.cons_prefix_cons.2 ⟨rfl, hpre⟩, by simp [hmap, h.1], ?_⟩
        simp [hmem, hs.symm]
      · -- the dot above is no ASCII character, so the word would have to end at the `i`
        rw [hc, List.cons_append, List.cons_prefix_cons] at h
        obtain ⟨rfl, h⟩ := h
        cases word with
        | nil => exact absurd rfl hw.2
        | cons m word =>
          rw [List.cons_append, List.cons_prefix_cons] at h
          have hm : isPlain m = true := (Bool.and_eq_true_iff.1 hw.tail.1).1
          rw [h.1] at hm
          exact absurd hm (by decide)
      · rw [hc, List.singleton_append, List.cons_prefix_cons] at h
        rw [h.1, hd] at hl
        cases hl

/-- A word in the lower-cased text is read by a stretch of the text without a long s. -/
theorem stretch_of_infix_lowercase {word cs : List Char} (hw : IsAsciiWord word)
    (h : word <:+: lowercase cs) : ∃ s, s <:+: cs ∧ s.map fold = word ∧ longS ∉ s := by
  induction cs with
  | nil =>
    have hnil : word = [] := by simpa [lowercase] using h
    exact ⟨[], List.nil_infix, hnil.symm, List.not_mem_nil⟩
  | cons c cs ih =>
    have hfront : word <+: lowercase (c :: cs) →
        ∃ s, s <:+: c :: cs ∧ s.map fold = word ∧ longS ∉ s := by
      intro hp
      obtain ⟨s, hs, hrest⟩ := prefix_of_prefix_lowercase hw hp
      exact ⟨s, hs.isInfix, hrest⟩
    have hback : word <:+: lowercase cs →
        ∃ s, s <:+: c :: cs ∧ s.map fold = word ∧ longS ∉ s := by
      intro hi
      obtain ⟨s, hs, hrest⟩ := ih hi
      exact ⟨s, hs.trans (List.suffix_cons c cs).isInfix, hrest⟩
    rw [lowercase_cons] at h
    have hsingle : ∀ d, lowerChar c = [d] →
        ∃ s, s <:+: c :: cs ∧ s.map fold = word ∧ longS ∉ s := by
      intro d hc
      rw [hc, List.singleton_append, List.infix_cons_iff] at h
      rcases h with h | h
      · exact hfront (by rw [lowercase_cons, hc]; exact h)
      · exact hback h
    rcases lowerChar_cases c with ⟨-, -, hc⟩ | ⟨-, hc | ⟨d, hc, -⟩⟩
    · exact hsingle _ hc
    · rw [hc, List.cons_append, List.infix_cons_iff] at h
      rcases h with h | h
      · exact hfront (by rw [lowercase_cons, hc]; exact h)
      · rw [List.singleton_append, List.infix_cons_iff] at h
        rcases h with h | h
        · -- no word begins with the dot above
          cases word with
          | nil => exact ⟨[], List.nil_infix, rfl, List.not_mem_nil⟩
          | cons l word =>
            have hl : isPlain l = true := (Bool.and_eq_true_iff.1 hw.1).1
            rw [(List.cons_prefix_cons.1 h).1] at hl
            exact absurd hl (by decide)
        · exact hback h
    · exact hsingle d hc

/-- A stretch that reads a word without a long s has the word for its lower case. -/
theorem lowercase_of_reads {word s : List Char} (hw : word.all isPlain = true)
    (hs : s.map fold = word) (hmem : longS ∉ s) : lowercase s = word := by
  induction s generalizing word with
  | nil => exact hs
  | cons c s ih =>
    subst hs
    simp only [List.mem_cons, not_or] at hmem
    obtain ⟨hc, hrest⟩ := Bool.and_eq_true_iff.1 hw
    rcases lowerChar_cases c with ⟨-, -, hlower⟩ | ⟨h | h, -⟩
    · rw [lowercase_cons, hlower, ih hrest rfl hmem.2]
      rfl
    · exact absurd h.symm hmem.1
    · rw [h] at hc
      cases hc

/-- CORRECT: the lower-cased text has a word iff a stretch reads the word without a long s. -/
theorem occurs_lowercase_iff {word : List Char} (hw : IsAsciiWord word) (cs : List Char) :
    occurs word (lowercase cs) = true ↔ ∃ s, s <:+: cs ∧ s.map fold = word ∧ longS ∉ s := by
  rw [occurs_iff]
  constructor
  · exact stretch_of_infix_lowercase hw
  · rintro ⟨s, ⟨a, b, rfl⟩, hs, hmem⟩
    refine ⟨lowercase a, lowercase b, ?_⟩
    rw [← lowercase_of_reads hw.1 hs hmem]
    simp [lowercase]

/-- What the lower-cased text has, stands in the text. -/
theorem standsIn_of_occurs_lowercase {word cs : List Char} (hw : IsAsciiWord word)
    (h : occurs word (lowercase cs) = true) : standsIn word cs = true := by
  obtain ⟨s, hs, hmap, -⟩ := (occurs_lowercase_iff hw cs).1 h
  exact (standsIn_iff word cs).2 ⟨s, hs, hmap⟩

end Agenda.Text
