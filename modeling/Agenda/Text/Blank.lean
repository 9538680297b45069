/-!
Blanks and words. A blank is any character with the White_Space property; a word is a longest run
of other characters. `unwords (words cs)` is the text with every run of blanks brought down to one
space and none left at the ends.
-/

namespace Agenda.Text

/-- The characters with the White_Space property. -/
def isBlank (c : Char) : Bool :=
  let n := c.toNat
  (9 ≤ n && n ≤ 13) || n == 32 || n == 0x85 || n == 0xA0 || n == 0x1680 ||
    (0x2000 ≤ n && n ≤ 0x200A) || n == 0x2028 || n == 0x2029 || n == 0x202F || n == 0x205F ||
    n == 0x3000

/-- A text without any visible character; the empty text is one. -/
def allBlank (cs : List Char) : Bool := cs.all isBlank

/-- The text from its first character that is not a blank. -/
def skipBlanks (cs : List Char) : List Char := cs.dropWhile isBlank

/-- The text without the blanks at its two ends. -/
def trim (cs : List Char) : List Char := (skipBlanks (skipBlanks cs).reverse).reverse

/-- Puts a character in front of the first word, or starts one with it. -/
def consWord (c : Char) : List (List Char) → List (List Char)
  | [] => [[c]]
  | w :: ws => (c :: w) :: ws

/-- The pieces of a text between separators, the empty ones left out. -/
def pieces (isSeparator : Char → Bool) : List Char → List (List Char)
  | [] => []
  | c :: cs =>
    if isSeparator c then pieces isSeparator cs
    else
      match cs with
      | [] => [[c]]
      | d :: _ =>
        if isSeparator d then [c] :: pieces isSeparator cs else consWord c (pieces isSeparator cs)

/-- The words of a text: its longest runs of characters that are not blanks. -/
def words (cs : List Char) : List (List Char) := pieces isBlank cs

/-- Words with one space between neighbours. -/
def unwords : List (List Char) → List Char
  | [] => []
  | [w] => w
  | w :: v :: ws => w ++ ' ' :: unwords (v :: ws)

/-- Trims a string at both ends. -/
def trimmed (s : String) : String := String.ofList (trim s.toList)

/-- Whether a string holds blanks only. -/
def isBlankText (s : String) : Bool := allBlank s.toList

/-- A text has no pieces iff it holds separators only. -/
theorem pieces_eq_nil_iff (p : Char → Bool) (cs : List Char) :
    pieces p cs = [] ↔ cs.all p = true := by
  induction cs with
  | nil => simp [pieces]
  | cons c cs ih =>
    unfold pieces
    cases hc : p c with
    | true => simpa [hc] using ih
    | false =>
      cases cs with
      | nil => simp [hc]
      | cons d ds =>
        cases hd : p d with
        | true => simp [hc, hd]
        | false => cases h : pieces p (d :: ds) <;> simp [hc, hd, consWord]

/-- A piece in front of the end or a separator is the first one. -/
theorem pieces_append {isSeparator : Char → Bool} {w cs : List Char} (hne : w ≠ [])
    (hw : ∀ c ∈ w, isSeparator c = false) (hcs : ∀ c, cs.head? = some c → isSeparator c = true) :
    pieces isSeparator (w ++ cs) = w :: pieces isSeparator cs := by
  induction w with
  | nil => exact absurd rfl hne
  | cons c w ih =>
    have hc := hw c List.mem_cons_self
    rw [List.cons_append, pieces.eq_def]
    simp only [hc, Bool.false_eq_true, ite_false]
    cases w with
    | nil =>
      cases cs with
      | nil => rfl
      | cons d ds => simp [hcs d rfl]
    | cons d ds =>
      have hd := hw d (by simp)
      have hrest := ih (List.cons_ne_nil d ds) fun e he => hw e (List.mem_cons_of_mem c he)
      rw [List.cons_append] at hrest ⊢
      simp only [hd, Bool.false_eq_true, ite_false, hrest, consWord]

/-- A piece is not empty and has no separator in it. -/
theorem mem_pieces {p : Char → Bool} {cs w : List Char} (h : w ∈ pieces p cs) :
    w ≠ [] ∧ ∀ c ∈ w, p c = false := by
  induction cs generalizing w with
  | nil => simp [pieces] at h
  | cons c cs ih =>
    unfold pieces at h
    cases hc : p c with
    | true => exact ih (by simpa [hc] using h)
    | false =>
      cases cs with
      | nil =>
        simp only [hc, Bool.false_eq_true, ite_false, List.mem_singleton] at h
        subst h
        simp [hc]
      | cons d ds =>
        cases hd : p d with
        | true =>
          simp only [hc, hd, Bool.false_eq_true, ite_false, ite_true, List.mem_cons] at h
          rcases h with rfl | h
          · simp [hc]
          · exact ih h
        | false =>
          simp only [hc, hd, Bool.false_eq_true, ite_false] at h
          cases hp : pieces p (d :: ds) with
          | nil =>
            simp only [hp, consWord, List.mem_singleton] at h
            subst h
            simp [hc]
          | cons v vs =>
            simp only [hp, consWord, List.mem_cons] at h
            have hv := ih (w := v) (by simp [hp])
            rcases h with rfl | h
            · simp only [ne_eq, reduceCtorEq, not_false_eq_true, List.mem_cons, forall_eq_or_imp,
                true_and]
              exact ⟨hc, hv.2⟩
            · exact ih (by simp [hp, h])

end Agenda.Text
