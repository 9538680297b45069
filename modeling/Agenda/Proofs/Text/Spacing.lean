import Mathlib.Data.List.TakeWhile
import Agenda.Text.Blank
import Agenda.Proofs.Text.Selection

/-!
Bringing white space down to single spaces, in one pass. `unwords (words cs)` cuts a text into its
words and joins them again; `squeeze` keeps of every run of blanks its last one, as a space, and no
run at the end. From the first visible character on the two agree, so that what is known of the pass
holds of the words.

    c, next:  visible          blank, visible ahead      blank, else
              c :: squeeze     ' ' :: squeeze            squeeze
-/

namespace Agenda.Text

/-- Whether a text is empty or begins with a blank. -/
def blankAhead : List Char → Bool
  | [] => true
  | c :: _ => isBlank c

/-- A text with one space for every run of blanks, and none for a run at the end. -/
def squeeze : List Char → List Char
  | [] => []
  | c :: cs =>
    if isBlank c then if blankAhead cs then squeeze cs else ' ' :: squeeze cs else c :: squeeze cs

/-! ### Blanks -/

/-- A text of blanks is skipped as a whole. -/
theorem skipBlanks_eq_nil_iff (cs : List Char) : skipBlanks cs = [] ↔ allBlank cs = true := by
  simp [skipBlanks, allBlank, List.dropWhile_eq_nil_iff]

/-- What is left after skipping blanks begins with a visible character. -/
theorem isBlank_of_skipBlanks_eq_cons {cs rest : List Char} {c : Char}
    (h : skipBlanks cs = c :: rest) : isBlank c = false := by
  have hhead := List.head?_dropWhile_not isBlank cs
  rw [← skipBlanks, h] at hhead
  exact hhead

/-- A text is blank iff nothing is left of it when it is trimmed. -/
theorem trim_eq_nil_iff (cs : List Char) : trim cs = [] ↔ allBlank cs = true := by
  rw [trim, List.reverse_eq_nil_iff, skipBlanks_eq_nil_iff]
  constructor
  · intro h
    cases hs : skipBlanks cs with
    | nil => exact (skipBlanks_eq_nil_iff cs).1 hs
    | cons c rest =>
      have hc := isBlank_of_skipBlanks_eq_cons hs
      simp [hs, allBlank, hc] at h
  · intro h
    rw [(skipBlanks_eq_nil_iff cs).2 h]
    rfl

/-! ### The pass over a text -/

/-- A blank and the blanks after it become one space, or nothing at the end. -/
theorem squeeze_of_isBlank {c : Char} (hc : isBlank c = true) (cs : List Char) :
    squeeze (c :: cs) = if allBlank cs then [] else ' ' :: squeeze (skipBlanks cs) := by
  induction cs generalizing c with
  | nil => simp [squeeze, hc, blankAhead, allBlank]
  | cons d ds ih =>
    cases hd : isBlank d with
    | true =>
      have hall : allBlank (d :: ds) = allBlank ds := by simp [allBlank, hd]
      have hskip : skipBlanks (d :: ds) = skipBlanks ds := by simp [skipBlanks, hd]
      rw [squeeze, if_pos hc, blankAhead, if_pos hd, ih hd, hall, hskip]
    | false =>
      have hskip : skipBlanks (d :: ds) = d :: ds := by simp [skipBlanks, hd]
      simp [squeeze, hc, hd, blankAhead, allBlank, hskip]

/-- A visible character stays. -/
theorem squeeze_of_not_isBlank {c : Char} (hc : isBlank c = false) (cs : List Char) :
    squeeze (c :: cs) = c :: squeeze cs := by
  rw [squeeze, hc, if_neg Bool.false_ne_true]

/-- Nothing is left of blanks. -/
theorem squeeze_eq_nil {cs : List Char} (h : allBlank cs = true) : squeeze cs = [] := by
  cases cs with
  | nil => rfl
  | cons c cs =>
    simp only [allBlank, List.all_cons, Bool.and_eq_true] at h
    rw [squeeze_of_isBlank h.1, if_pos (by simpa [allBlank] using h.2)]

/-- A text with single spaces inside is kept, and blanks behind it are not. -/
theorem squeeze_append {s bs : List Char} (hspace : ∀ c ∈ s, isBlank c = true → c = ' ')
    (hsingle : ¬ [' ', ' '] <:+: s) (hlast : ∀ c, s.getLast? = some c → isBlank c = false)
    (hbs : allBlank bs = true) : squeeze (s ++ bs) = s := by
  induction s with
  | nil => exact squeeze_eq_nil hbs
  | cons c s ih =>
    have hrest := ih (fun d hd => hspace d (List.mem_cons_of_mem c hd))
      (fun h => hsingle (h.trans (List.suffix_cons c s).isInfix))
    cases s with
    | nil =>
      have hc := hlast c rfl
      rw [List.cons_append, squeeze_of_not_isBlank hc, hrest (by simp)]
    | cons d ds =>
      have hrest := hrest (by simpa [List.getLast?_cons_cons] using hlast)
      rw [List.cons_append]
      cases hc : isBlank c with
      | false => rw [squeeze_of_not_isBlank hc, hrest]
      | true =>
        have hd : isBlank d = false := by
          rw [Bool.eq_false_iff]
          intro hd
          obtain rfl := hspace c List.mem_cons_self hc
          obtain rfl := hspace d (by simp) hd
          exact hsingle ⟨[], ds, rfl⟩
        obtain rfl := hspace c List.mem_cons_self hc
        rw [squeeze, if_pos hc, List.cons_append, blankAhead, hd, if_neg Bool.false_ne_true,
          ← List.cons_append, hrest]

/-- A blank as a space, every other character as it is. -/
def asSpace (c : Char) : Char := if isBlank c then ' ' else c

/-- The places of a text that the pass keeps. -/
def keepsBlanks : List Char → List Bool
  | [] => []
  | c :: cs => (!(isBlank c && blankAhead cs)) :: keepsBlanks cs

/-- The pass keeps the marked places and writes their blanks as spaces. -/
theorem squeeze_eq_select (cs : List Char) :
    squeeze cs = (select (keepsBlanks cs) cs).map asSpace := by
  induction cs with
  | nil => rfl
  | cons c cs ih =>
    rw [squeeze, keepsBlanks]
    cases hc : isBlank c with
    | false => simp [select, asSpace, hc, ih]
    | true => cases hb : blankAhead cs <;> simp [select, asSpace, hc, ih]

/-! ### Words and the pass -/

/-- A character put in front of the first word stands in front of the text. -/
theorem unwords_consWord (c : Char) {ws : List (List Char)} (h : ws ≠ []) :
    unwords (consWord c ws) = c :: unwords ws := by
  rcases ws with _ | ⟨w, _ | ⟨v, vs⟩⟩
  · exact absurd rfl h
  · rfl
  · rfl

theorem words_eq_nil_iff (cs : List Char) : words cs = [] ↔ allBlank cs = true :=
  pieces_eq_nil_iff isBlank cs

/-- A blank in front does not change the words. -/
theorem words_of_isBlank {c : Char} (hc : isBlank c = true) (cs : List Char) :
    words (c :: cs) = words cs := by
  unfold words
  rw [pieces.eq_def]
  exact if_pos hc

/-- A word of one character ends before a blank. -/
theorem words_cons_isBlank {c d : Char} (hc : isBlank c = false) (hd : isBlank d = true)
    (ds : List Char) : words (c :: d :: ds) = [c] :: words (d :: ds) := by
  rw [words, pieces, if_neg (by simp [hc])]
  simp only [hd, ite_true]
  rfl

/-- Two visible characters belong to one word. -/
theorem words_cons_not_isBlank {c d : Char} (hc : isBlank c = false) (hd : isBlank d = false)
    (ds : List Char) : words (c :: d :: ds) = consWord c (words (d :: ds)) := by
  rw [words, pieces, if_neg (by simp [hc])]
  simp only [hd, Bool.false_eq_true, ite_false]
  rfl

/-- CORRECT: joining the words is the pass over the text from its first visible character on. -/
theorem unwords_words (cs : List Char) : unwords (words cs) = squeeze (skipBlanks cs) := by
  induction cs with
  | nil => rfl
  | cons c cs ih =>
    cases hc : isBlank c with
    | true =>
      have hskip : skipBlanks (c :: cs) = skipBlanks cs := by simp [skipBlanks, hc]
      rw [words_of_isBlank hc, hskip, ih]
    | false =>
      have hskip : skipBlanks (c :: cs) = c :: cs := by simp [skipBlanks, hc]
      rw [hskip, squeeze_of_not_isBlank hc]
      cases cs with
      | nil => simp [words, pieces, hc, unwords, squeeze]
      | cons d ds =>
        cases hd : isBlank d with
        | true =>
          rw [words_cons_isBlank hc hd, squeeze_of_isBlank hd]
          have hskip : skipBlanks (d :: ds) = skipBlanks ds := by simp [skipBlanks, hd]
          rw [hskip] at ih
          cases hw : words (d :: ds) with
          | nil =>
            rw [words_of_isBlank hd, words_eq_nil_iff] at hw
            rw [if_pos hw]
            rfl
          | cons w ws =>
            have hall : ¬ allBlank ds = true := by
              rw [← words_eq_nil_iff, ← words_of_isBlank hd, hw]
              exact List.cons_ne_nil w ws
            rw [if_neg hall, ← ih, hw]
            rfl
        | false =>
          have hskip : skipBlanks (d :: ds) = d :: ds := by simp [skipBlanks, hd]
          have hne : words (d :: ds) ≠ [] := by
            rw [Ne, words_eq_nil_iff]
            simp [allBlank, hd]
          rw [words_cons_not_isBlank hc hd, unwords_consWord c hne, ih, hskip]

/-- The words of a text, joined, are nothing or begin with a visible character. -/
theorem unwords_words_cases (cs : List Char) :
    (allBlank cs = true ∧ unwords (words cs) = []) ∨
    ∃ c rest, unwords (words cs) = c :: rest ∧ isBlank c = false := by
  rw [unwords_words]
  cases hs : skipBlanks cs with
  | nil => exact Or.inl ⟨(skipBlanks_eq_nil_iff cs).1 hs, rfl⟩
  | cons c rest =>
    have hc := isBlank_of_skipBlanks_eq_cons hs
    exact Or.inr ⟨c, squeeze rest, squeeze_of_not_isBlank hc rest, hc⟩

end Agenda.Text
