import Agenda.Proofs.Text.LetterCase
import Agenda.Text.Blank
import Agenda.Text.Digits
import Agenda.Text.Utf8
import Agenda.Text.WordChar

/-!
Texts that differ in the case of ASCII letters alone. Two such texts are the same text once all
ASCII capitals are made small, so whatever commutes with making them small cannot tell the two
apart. No class of characters that a text is searched for can: blanks, digits, word characters, what
a character folds to, its lower case and its length in bytes are those of its small letter.

    text    M e E t   Á T   3 P M        Á is no ASCII letter and stays
    small   m e e t   Á t   3 p m
-/

namespace Agenda.Text

/-- Two characters that are the same, or the two cases of one ASCII letter. -/
def SameLetter (c d : Char) : Prop :=
  c = d ∨ (c.isAlpha = true ∧ d.isAlpha = true ∧ c.toLower = d.toLower)

/-- Two texts that agree place by place up to the case of ASCII letters. -/
def SameLetters (cs ds : List Char) : Prop := List.Forall₂ SameLetter cs ds

/-- A text with its ASCII capitals made small. -/
def small (cs : List Char) : List Char := cs.map Char.toLower

/-! ### Characters -/

/-- A capital has its small letter 32 code points on; every other character is left as it is. -/
theorem toLower_cases (c : Char) :
    c.toLower = c ∨ ∃ n < 26, c = Char.ofNat (65 + n) ∧ c.toLower = Char.ofNat (97 + n) := by
  by_cases hupper : c.isUpper = true
  · have hrange := isUpper_iff.1 hupper
    refine Or.inr ⟨c.toNat - 65, by omega, ?_, ?_⟩
    · rw [Nat.add_sub_cancel' hrange.1, Char.ofNat_toNat]
    · rw [Char.toLower_eq_of_isUpper hupper]
      congr 1
      omega
  · exact Or.inl (Char.toLower_eq_of_not_isUpper hupper)

/-- What does not tell the letters `A` to `Z` from their small ones tells no capital from it. -/
theorem eq_toLower {β : Type} {p : Char → β}
    (h : ∀ n < 26, p (Char.ofNat (97 + n)) = p (Char.ofNat (65 + n))) (c : Char) :
    p c.toLower = p c := by
  rcases toLower_cases c with hsame | ⟨n, hn, hc, hlower⟩
  · rw [hsame]
  · rw [hlower, h n hn, ← hc]

@[simp] theorem isBlank_toLower (c : Char) : isBlank c.toLower = isBlank c :=
  eq_toLower (by decide) c

@[simp] theorem isDigit_toLower (c : Char) : c.toLower.isDigit = c.isDigit :=
  eq_toLower (p := Char.isDigit) (by decide) c

@[simp] theorem isWordChar_toLower (c : Char) : isWordChar c.toLower = isWordChar c :=
  eq_toLower (by decide) c

@[simp] theorem fold_toLower (c : Char) : fold c.toLower = fold c :=
  eq_toLower (by decide) c

@[simp] theorem lowerChar_toLower (c : Char) : lowerChar c.toLower = lowerChar c :=
  eq_toLower (by decide) c

@[simp] theorem utf8Size_toLower (c : Char) : c.toLower.utf8Size = c.utf8Size :=
  eq_toLower (p := Char.utf8Size) (by decide) c

/-- The colon is no letter, and no letter becomes one. -/
@[simp] theorem beq_colon_toLower (c : Char) : (c.toLower == ':') = (c == ':') :=
  eq_toLower (p := (· == ':')) (by decide) c

/-- A digit has no other case. -/
theorem toLower_of_digit {c : Char} (h : c.isDigit = true) : c.toLower = c := by
  rcases toLower_cases c with hsame | ⟨n, hn, hc, -⟩
  · exact hsame
  · have hnone : ∀ n < 26, (Char.ofNat (65 + n)).isDigit = false := by decide
    rw [hc, hnone n hn] at h
    cases h

/-- Characters with the same small letter are the same letter. -/
theorem sameLetter_iff {c d : Char} : SameLetter c d ↔ c.toLower = d.toLower := by
  constructor
  · rintro (rfl | ⟨-, -, h⟩)
    · rfl
    · exact h
  · intro h
    by_cases hc : c.isAlpha = true
    · refine Or.inr ⟨hc, ?_, h⟩
      rw [← Char.isAlpha_toLower_eq_isAlpha, ← h, Char.isAlpha_toLower_eq_isAlpha, hc]
    · -- a character that is no letter is its own small letter
      have hself : ∀ e : Char, ¬ e.isAlpha = true → e.toLower = e := by
        intro e he
        refine Char.toLower_eq_of_not_isUpper fun hupper => he ?_
        rw [Char.isAlpha, hupper, Bool.true_or]
      have hd : ¬ d.isAlpha = true := by
        rwa [← Char.isAlpha_toLower_eq_isAlpha, ← h, Char.isAlpha_toLower_eq_isAlpha]
      rw [hself c hc, hself d hd] at h
      exact Or.inl h

/-! ### Texts -/

/-- Texts agree up to the case of ASCII letters iff they are the same in small letters. -/
theorem sameLetters_iff {cs ds : List Char} : SameLetters cs ds ↔ small cs = small ds := by
  induction cs generalizing ds with
  | nil => cases ds <;> simp [SameLetters, small]
  | cons c cs ih =>
    cases ds with
    | nil => simp [SameLetters, small]
    | cons d ds =>
      rw [SameLetters, List.forall₂_cons, sameLetter_iff, ← SameLetters, ih]
      simp [small]

@[simp] theorem small_nil : small [] = [] := rfl

@[simp] theorem small_cons (c : Char) (cs : List Char) : small (c :: cs) = c.toLower :: small cs :=
  rfl

@[simp] theorem small_append (cs ds : List Char) : small (cs ++ ds) = small cs ++ small ds :=
  List.map_append

@[simp] theorem length_small (cs : List Char) : (small cs).length = cs.length :=
  List.length_map ..

theorem small_small (cs : List Char) : small (small cs) = small cs := by
  simp [small]

theorem small_drop (n : Nat) (cs : List Char) : small (cs.drop n) = (small cs).drop n :=
  List.map_drop ..

theorem small_take (n : Nat) (cs : List Char) : small (cs.take n) = (small cs).take n :=
  List.map_take ..

@[simp] theorem byteLength_small (cs : List Char) : byteLength (small cs) = byteLength cs := by
  induction cs with
  | nil => rfl
  | cons c cs ih => simp [byteLength, ih]

@[simp] theorem allBlank_small (cs : List Char) : allBlank (small cs) = allBlank cs := by
  simp [allBlank, small, List.all_map, Function.comp_def]

@[simp] theorem endsWord_small (cs : List Char) : endsWord (small cs) = endsWord cs := by
  cases cs <;> simp [endsWord]

@[simp] theorem beginsWith_small (word cs : List Char) :
    beginsWith word (small cs) = beginsWith word cs := by
  simp [beginsWith_eq, small, Function.comp_def]

@[simp] theorem lowercase_small (cs : List Char) : lowercase (small cs) = lowercase cs := by
  simp [lowercase, small, List.flatMap_map]

theorem takeWhile_small {p : Char → Bool} (hp : ∀ c, p c.toLower = p c) (cs : List Char) :
    (small cs).takeWhile p = small (cs.takeWhile p) := by
  rw [small, List.takeWhile_map, Function.comp_def]
  simp only [hp]
  rfl

theorem dropWhile_small {p : Char → Bool} (hp : ∀ c, p c.toLower = p c) (cs : List Char) :
    (small cs).dropWhile p = small (cs.dropWhile p) := by
  rw [small, List.dropWhile_map, Function.comp_def]
  simp only [hp]
  rfl

/-- The digits at the front are the same, and the rest is made small. -/
theorem takeDigits_small (width : Nat) (cs : List Char) :
    takeDigits width (small cs) = ((takeDigits width cs).1, small (takeDigits width cs).2) := by
  fun_induction takeDigits width cs with
  | case1 width c cs h ds rest hd ih =>
    rw [small_cons, takeDigits, isDigit_toLower, if_pos h, ih, hd, toLower_of_digit h]
  | case2 width c cs h => rw [small_cons, takeDigits, isDigit_toLower, if_neg h]
  | case3 width cs h =>
    rcases width with _ | width
    · cases cs <;> rfl
    · cases cs with
      | nil => rfl
      | cons c cs => exact absurd rfl (h width c cs rfl)

/-- Digits have no other case. -/
theorem small_takeDigits (width : Nat) (cs : List Char) :
    small (takeDigits width cs).1 = (takeDigits width cs).1 := by
  fun_induction takeDigits width cs with
  | case1 width c cs h ds rest hd ih =>
    rw [hd] at ih
    rw [small_cons, toLower_of_digit h, ih]
  | case2 width c cs h => rfl
  | case3 width cs h => rfl

theorem consWord_small (c : Char) (ws : List (List Char)) :
    consWord c.toLower (ws.map small) = (consWord c ws).map small := by
  cases ws <;> rfl

/-- The words are made small. -/
theorem words_small (cs : List Char) : words (small cs) = (words cs).map small := by
  unfold words
  induction cs with
  | nil => rfl
  | cons c cs ih =>
    rw [small_cons, pieces.eq_def, pieces.eq_def isBlank (c :: cs)]
    simp only [isBlank_toLower]
    cases cs with
    | nil => split <;> rfl
    | cons d ds =>
      simp only [small_cons, isBlank_toLower] at ih ⊢
      rw [ih]
      split
      · rfl
      · split
        · rfl
        · exact consWord_small c _

theorem unwords_small (ws : List (List Char)) : unwords (ws.map small) = small (unwords ws) := by
  fun_induction unwords ws with
  | case1 => rfl
  | case2 w => rfl
  | case3 w v ws ih =>
    rw [List.map_cons] at ih ⊢
    rw [List.map_cons, unwords, ih, small_append]
    rfl

end Agenda.Text
