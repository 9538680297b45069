/-!
Measuring and cutting a text in UTF-8 bytes, while the text itself stays a list of characters. A
cut that would fall inside a character is no cut at all.
-/

namespace Agenda.Text

/-- Bytes that a text takes in UTF-8. -/
def byteLength : List Char → Nat
  | [] => 0
  | c :: cs => c.utf8Size + byteLength cs

/-- The text before and after a byte offset; none past the end or inside a character. -/
def splitAtByte? : Nat → List Char → Option (List Char × List Char)
  | 0, cs => some ([], cs)
  | _ + 1, [] => none
  | n + 1, c :: cs =>
    if n + 1 < c.utf8Size then none
    else (splitAtByte? (n + 1 - c.utf8Size) cs).map fun (before, after) => (c :: before, after)

theorem byteLength_append (xs ys : List Char) :
    byteLength (xs ++ ys) = byteLength xs + byteLength ys := by
  induction xs with
  | nil => simp [byteLength]
  | cons c xs ih => simp [byteLength, ih, Nat.add_assoc]

/-- The offset at which a text ends cuts it off from what follows. -/
theorem splitAtByte?_byteLength (xs ys : List Char) :
    splitAtByte? (byteLength xs) (xs ++ ys) = some (xs, ys) := by
  induction xs with
  | nil => cases ys <;> rfl
  | cons c xs ih =>
    have hc : 0 < c.utf8Size := Char.utf8Size_pos c
    obtain ⟨n, hn⟩ : ∃ n, byteLength (c :: xs) = n + 1 :=
      ⟨byteLength (c :: xs) - 1, by simp only [byteLength]; omega⟩
    have hlen : n + 1 = c.utf8Size + byteLength xs := by rw [← hn]; rfl
    rw [hn, List.cons_append, splitAtByte?, if_neg (by omega),
      show n + 1 - c.utf8Size = byteLength xs by omega, ih]
    rfl

end Agenda.Text
