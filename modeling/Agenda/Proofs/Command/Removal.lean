import Agenda.Command.Title
import Agenda.Proofs.Text.LetterCase
import Agenda.Proofs.Text.Selection

/-!
What the passes over a title leave alone and what they take. A pass marks the places of a text and
keeps the characters at the marked ones: a place is not marked where a word begins and on through
the word. The marks depend on the folded text alone. CORRECT: a marked place begins no word, and a
text in which no word stands is kept as it is, also in front of a space, unless a word goes on
behind the space.

    text    s u n d a y   s u n
    marks   0 0 0 0 0 0 1 1 1 1
-/

namespace Agenda.Command.Title
open Agenda.Calendar Agenda.Text

/-! ### Marks -/

/-- The places of a folded text that are kept by a pass over words. -/
def keeps (words : List (List Char)) : (skip : Nat) → List Char → List Bool
  | _, [] => []
  | skip + 1, _ :: cs => false :: keeps words skip cs
  | 0, c :: cs =>
    match words.find? fun word => word.isPrefixOf (c :: cs) with
    | some word => false :: keeps words (word.length - 1) cs
    | none => true :: keeps words 0 cs

/-- A pass over words keeps the marked places. -/
theorem dropWords_eq_select (words : List (List Char)) (skip : Nat) (cs : List Char) :
    dropWords words skip cs = select (keeps words skip (cs.map fold)) cs := by
  induction cs generalizing skip with
  | nil => cases skip <;> rfl
  | cons c cs ih =>
    rcases skip with _ | skip
    · rw [dropWords, List.map_cons, keeps]
      simp only [beginsWith_eq, List.map_cons]
      cases words.find? fun word => word.isPrefixOf (fold c :: cs.map fold) with
      | some word => exact ih _
      | none => exact congrArg (c :: ·) (ih 0)
    · exact ih skip

/-- No word begins at a place that is kept. -/
theorem not_prefix_of_keeps {words : List (List Char)} {skip i : Nat} {cs : List Char}
    (h : (keeps words skip cs)[i]? = some true) : ∀ word ∈ words, ¬ word <+: cs.drop i := by
  induction cs generalizing skip i with
  | nil => cases skip <;> simp [keeps] at h
  | cons c cs ih =>
    rcases skip with _ | skip
    · rw [keeps] at h
      cases hfind : words.find? fun word => word.isPrefixOf (c :: cs) with
      | some word =>
        simp only [hfind] at h
        cases i with
        | zero => simp at h
        | succ i => exact ih h
      | none =>
        simp only [hfind] at h
        cases i with
        | zero =>
          intro word hword
          have hno := List.find?_eq_none.1 hfind word hword
          rwa [List.isPrefixOf_iff_prefix] at hno
        | succ i => exact ih h
    · cases i with
      | zero => simp [keeps] at h
      | succ i => exact ih h

/-- The places of a text that are kept by the pass over prepositions. -/
def keepsPrepositions : (skip : Nat) → (inWord : Bool) → List Char → List Bool
  | _, _, [] => []
  | skip + 1, _, c :: cs => false :: keepsPrepositions skip (isWordChar c) cs
  | 0, inWord, c :: cs =>
    if !inWord && beginsWithPreposition (c :: cs) then
      false :: keepsPrepositions 1 (isWordChar c) cs
    else true :: keepsPrepositions 0 (isWordChar c) cs

/-- The pass over prepositions keeps the marked places. -/
theorem dropPrepositions_eq_select (skip : Nat) (inWord : Bool) (cs : List Char) :
    dropPrepositions skip inWord cs = select (keepsPrepositions skip inWord cs) cs := by
  induction cs generalizing skip inWord with
  | nil => cases skip <;> rfl
  | cons c cs ih =>
    rcases skip with _ | skip
    · rw [dropPrepositions, keepsPrepositions]
      split
      · exact ih 1 (isWordChar c)
      · exact congrArg (c :: ·) (ih 0 (isWordChar c))
    · exact ih skip (isWordChar c)

/-! ### Words -/

section Words
variable {words : List (List Char)}

/-- Where no word begins the character is kept. -/
theorem dropWords_cons {c : Char} {cs : List Char}
    (h : ∀ word ∈ words, beginsWith word (c :: cs) = false) :
    dropWords words 0 (c :: cs) = c :: dropWords words 0 cs := by
  have hfind : words.find? (fun word => beginsWith word (c :: cs)) = none := by
    rw [List.find?_eq_none]
    intro word hword
    simp [h word hword]
  rw [dropWords, hfind]

/-- A stretch in which no word begins is kept. -/
theorem dropWords_append {s cs : List Char}
    (h : ∀ r, r ≠ [] → r <:+ s → ∀ word ∈ words, beginsWith word (r ++ cs) = false) :
    dropWords words 0 (s ++ cs) = s ++ dropWords words 0 cs := by
  induction s with
  | nil => rfl
  | cons c s ih =>
    have hc := h (c :: s) (List.cons_ne_nil c s) (List.suffix_refl _)
    have hrest := ih fun r hr hrs => h r hr (hrs.trans (List.suffix_cons c s))
    rw [List.cons_append] at hc ⊢
    rw [dropWords_cons hc, hrest]
    rfl

/-- A word that stands nowhere begins nowhere. -/
theorem beginsWith_eq_false_of_suffix {word r cs : List Char} (h : standsIn word cs = false)
    (hr : r <:+ cs) : beginsWith word r = false := by
  rw [Bool.eq_false_iff]
  intro hb
  rw [beginsWith_iff] at hb
  have hin := (standsIn_iff_map word cs).2 (hb.isInfix.trans (hr.isInfix.map fold))
  rw [h] at hin
  cases hin

end Words

/-! ### Where words end -/

/-- A word at the front ends before the space behind, or goes on after it. -/
theorem prefix_append_space {word s cs : List Char} (h : word <+: s ++ ' ' :: cs) :
    word <+: s ∨ ∃ rest, word = s ++ ' ' :: rest ∧ rest <+: cs := by
  rcases Nat.le_total word.length s.length with hle | hle
  · exact Or.inl (List.prefix_of_prefix_length_le h (List.prefix_append s _) hle)
  · obtain ⟨rest, rfl⟩ := List.prefix_of_prefix_length_le (List.prefix_append s _) h hle
    rw [List.prefix_append_right_inj] at h
    cases rest with
    | nil => exact Or.inl (by simp)
    | cons c rest =>
      obtain ⟨rfl, hrest⟩ := List.cons_prefix_cons.1 h
      exact Or.inr ⟨rest, rfl, hrest⟩

/-- A word in a text stands on one side of a space, or goes on after it. -/
theorem infix_append_space {word s cs : List Char} (h : word <:+: s ++ ' ' :: cs) :
    word <:+: s ∨ word <:+: cs ∨ ∃ front rest, word = front ++ ' ' :: rest ∧ rest <+: cs := by
  rcases List.infix_append_iff_ne_nil.1 h with h | h | ⟨front, back, -, hne, rfl, -, hback⟩
  · exact Or.inl h
  · rcases List.infix_cons_iff.1 h with h | h
    · cases word with
      | nil => exact Or.inl List.nil_infix
      | cons c word =>
        obtain ⟨rfl, hword⟩ := List.cons_prefix_cons.1 h
        exact Or.inr (Or.inr ⟨[], word, rfl, hword⟩)
    · exact Or.inr (Or.inl h)
  · cases back with
    | nil => exact absurd rfl hne
    | cons c rest =>
      obtain ⟨rfl, hrest⟩ := List.cons_prefix_cons.1 hback
      exact Or.inr (Or.inr ⟨front, rest, rfl, hrest⟩)

/-- The last character of a word in two joined texts lies in the second one, or the first has it. -/
theorem infix_of_getLast {word cs ds : List Char} {l : Char} (hl : word.getLast? = some l)
    (hds : l ∉ ds) (h : word <:+: cs ++ ds) : word <:+: cs := by
  rcases List.infix_append_iff_ne_nil.1 h with h | h | ⟨front, back, -, hne, rfl, -, hback⟩
  · exact h
  · exact absurd (h.subset (List.mem_of_getLast? hl)) hds
  · rw [List.getLast?_append_of_ne_nil _ hne] at hl
    exact absurd (hback.subset (List.mem_of_getLast? hl)) hds

theorem map_fold_append_space (s cs : List Char) :
    (s ++ ' ' :: cs).map fold = s.map fold ++ ' ' :: cs.map fold := by
  rw [List.map_append, List.map_cons]
  rfl

/-- A text without words is kept before a space that no word goes on after. -/
theorem dropWords_append_space {words : List (List Char)} {s cs : List Char}
    (hs : ∀ word ∈ words, standsIn word s = false)
    (hover : ∀ word ∈ words, ∀ front rest, word = front ++ ' ' :: rest → ¬ rest <+: cs.map fold) :
    dropWords words 0 (s ++ ' ' :: cs) = s ++ ' ' :: dropWords words 0 cs := by
  have hstop : ∀ r, r <:+ s → ∀ word ∈ words, beginsWith word (r ++ ' ' :: cs) = false := by
    intro r hr word hword
    rw [Bool.eq_false_iff]
    intro hb
    rw [beginsWith_iff, map_fold_append_space] at hb
    rcases prefix_append_space hb with hin | ⟨rest, heq, hrest⟩
    · have hfalse := beginsWith_eq_false_of_suffix (hs word hword) hr
      rw [(beginsWith_iff word r).2 hin] at hfalse
      cases hfalse
    · exact hover word hword _ rest heq hrest
  have hspace := hstop [] List.nil_suffix
  rw [List.nil_append] at hspace
  rw [dropWords_append fun r _ hr => hstop r hr, dropWords_cons hspace]

/-! ### Prepositions -/

/-- Whether `at` or `on` stands alone somewhere in a text; `inWord` after a word character. -/
def hasPreposition : (inWord : Bool) → List Char → Bool
  | _, [] => false
  | inWord, c :: cs =>
    !inWord && beginsWithPreposition (c :: cs) || hasPreposition (isWordChar c) cs

/-- A space behind a word ends it just as the end of the text does. -/
theorem beginsWithPreposition_append_space {s : List Char} (hs : s ≠ []) (cs : List Char) :
    beginsWithPreposition (s ++ ' ' :: cs) = beginsWithPreposition s := by
  have ht : fold ' ' ≠ 't' := by decide
  have hn : fold ' ' ≠ 'n' := by decide
  have hspace : isWordChar ' ' = false := by decide
  rcases s with _ | ⟨a, _ | ⟨b, _ | ⟨c, s⟩⟩⟩
  · exact absurd rfl hs
  · simp [beginsWithPreposition, beginsWith, ht, hn]
  · simp [beginsWithPreposition, beginsWith, endsWord, hspace]
  · simp [beginsWithPreposition, beginsWith, endsWord]

/-- A text without prepositions is kept before a space. -/
theorem dropPrepositions_append_space {s : List Char} {inWord : Bool}
    (h : hasPreposition inWord s = false) (cs : List Char) :
    dropPrepositions 0 inWord (s ++ ' ' :: cs) = s ++ ' ' :: dropPrepositions 0 false cs := by
  induction s generalizing inWord with
  | nil =>
    have hspace : beginsWithPreposition (' ' :: cs) = false := by
      have ha : fold ' ' ≠ 'a' := by decide
      have ho : fold ' ' ≠ 'o' := by decide
      simp [beginsWithPreposition, beginsWith, ha, ho]
    have hword : isWordChar ' ' = false := by decide
    rw [List.nil_append, dropPrepositions, hspace, hword]
    simp
  | cons c s ih =>
    rw [hasPreposition, Bool.or_eq_false_iff] at h
    have hsame := beginsWithPreposition_append_space (List.cons_ne_nil c s) cs
    rw [List.cons_append] at hsame ⊢
    rw [dropPrepositions, hsame, h.1, ih h.2]
    rfl

end Agenda.Command.Title
