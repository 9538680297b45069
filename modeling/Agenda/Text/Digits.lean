/-!
Digits: the number that a run of decimal digits denotes, a number written with leading zeros up to a
width, and the digits at the front of a text.
-/

namespace Agenda.Text

/-- The number that a run of decimal digits denotes. -/
def numeral (ds : List Char) : Nat := Nat.ofDigitChars 10 ds 0

/-- A number in decimal, with zeros in front up to a width. -/
def padded (width n : Nat) : List Char :=
  let ds := Nat.toDigits 10 n
  List.replicate (width - ds.length) '0' ++ ds

/-- A number below one hundred in two digits. -/
def twoDigits (n : Nat) : List Char := [Nat.digitChar (n / 10), Nat.digitChar (n % 10)]

/-- A number in lower-case hexadecimal, with zeros in front up to a width. -/
def paddedHex (width n : Nat) : List Char :=
  let ds := Nat.toDigits 16 n
  List.replicate (width - ds.length) '0' ++ ds

/-- The digits at the front of a text, at most `width` of them, and what follows. -/
def takeDigits : Nat → List Char → List Char × List Char
  | width + 1, c :: cs =>
    if c.isDigit then
      let (ds, rest) := takeDigits width cs
      (c :: ds, rest)
    else ([], c :: cs)
  | _, cs => ([], cs)

/-- Nothing is lost where digits are taken off. -/
theorem takeDigits_append (width : Nat) (cs : List Char) :
    (takeDigits width cs).1 ++ (takeDigits width cs).2 = cs := by
  fun_induction takeDigits width cs with
  | case1 width c cs h ds rest hd ih => simpa [hd] using ih
  | case2 => rfl
  | case3 => rfl

/-- Digits are taken up to the width or up to the first character that is none. -/
theorem takeDigits_run {width : Nat} {ds cs : List Char} (hd : ∀ c ∈ ds, c.isDigit = true)
    (hle : ds.length ≤ width)
    (hstop : ds.length = width ∨ ∀ c, cs.head? = some c → c.isDigit = false) :
    takeDigits width (ds ++ cs) = (ds, cs) := by
  induction ds generalizing width with
  | nil =>
    rcases width with _ | width
    · cases cs <;> rfl
    · rcases hstop with hlen | hstop
      · simp at hlen
      · cases cs with
        | nil => rfl
        | cons c cs =>
          have hc := hstop c rfl
          simp [takeDigits, hc]
  | cons d ds ih =>
    rcases width with _ | width
    · simp at hle
    · have hrest : takeDigits width (ds ++ cs) = (ds, cs) :=
        ih (fun c hc => hd c (List.mem_cons_of_mem d hc)) (by simpa using hle) (by simpa using hstop)
      rw [List.cons_append, takeDigits, if_pos (hd d List.mem_cons_self), hrest]

/-- A number that is padded with zeros is still the same number. -/
theorem numeral_padded (width n : Nat) : numeral (padded width n) = n := by
  have hzeros : ∀ k, Nat.ofDigitChars 10 (List.replicate k '0') 0 = 0 := by
    intro k
    induction k with
    | zero => rfl
    | succ k ih => rw [List.replicate_succ, Nat.ofDigitChars_cons]; exact ih
  rw [numeral, padded, Nat.ofDigitChars_append, hzeros,
    Nat.ofDigitChars_toDigits (by decide) (by decide)]

theorem isDigit_of_mem_padded {width n : Nat} {c : Char} (h : c ∈ padded width n) :
    c.isDigit = true := by
  rcases List.mem_append.1 h with hzero | hdigit
  · rw [List.eq_of_mem_replicate hzero]
    rfl
  · exact Nat.isDigit_of_mem_toDigits (by decide) (by decide) hdigit

/-- A number with no more digits than there is room for takes up all the room. -/
theorem length_padded {width n : Nat} (h : (Nat.toDigits 10 n).length ≤ width) :
    (padded width n).length = width := by
  rw [padded, List.length_append, List.length_replicate]
  omega

/-- A padded number has a first digit. -/
theorem padded_eq_cons (width n : Nat) :
    ∃ d ds, padded width n = d :: ds ∧ d.isDigit = true := by
  cases h : padded width n with
  | nil =>
    have hpos := Nat.length_toDigits_pos (b := 10) (n := n)
    simp only [padded, List.append_eq_nil_iff] at h
    simp [h.2] at hpos
  | cons d ds => exact ⟨d, ds, rfl, isDigit_of_mem_padded (by rw [h]; exact List.mem_cons_self)⟩

theorem numeral_twoDigits : ∀ n < 100, numeral (twoDigits n) = n := by decide

theorem all_isDigit_twoDigits : ∀ n < 100, (twoDigits n).all Char.isDigit := by decide

end Agenda.Text
