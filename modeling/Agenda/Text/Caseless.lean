/-!
Matching words without regard to letter case. Two characters are the same letter when simple case
folding takes them to the same character; the words looked for are in ASCII lower case, and the only
characters beyond ASCII that fold to an ASCII letter are the long s and the Kelvin sign.
-/

namespace Agenda.Text

/-- Simple case folding, as far as it leads to an ASCII letter. -/
def fold (c : Char) : Char :=
  if c = Char.ofNat 0x17F then 's'
  else if c = Char.ofNat 0x212A then 'k'
  else c.toLower

/-- Whether a text begins with a lower-case word in some letter case. -/
def beginsWith : List Char → List Char → Bool
  | [], _ => true
  | _ :: _, [] => false
  | l :: word, c :: cs => fold c == l && beginsWith word cs

/-- Whether a word stands somewhere in a text, letter by letter. -/
def occurs (word : List Char) : List Char → Bool
  | [] => word.isEmpty
  | c :: cs => word.isPrefixOf (c :: cs) || occurs word cs

/-- A text begins with a word iff its folded form does. -/
theorem beginsWith_iff (word cs : List Char) :
    beginsWith word cs = true ↔ word <+: cs.map fold := by
  induction word generalizing cs with
  | nil => simp [beginsWith]
  | cons l word ih =>
    cases cs with
    | nil => simp [beginsWith]
    | cons c cs =>
      rw [beginsWith, Bool.and_eq_true, ih, beq_iff_eq, List.map_cons, List.cons_prefix_cons,
        eq_comm]

/-- A word occurs in a text iff it is a stretch of it. -/
theorem occurs_iff (word cs : List Char) : occurs word cs = true ↔ word <:+: cs := by
  induction cs with
  | nil => simp [occurs]
  | cons c cs ih => simp [occurs, ih, List.infix_cons_iff]

end Agenda.Text
