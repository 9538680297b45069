import Agenda.Json.Value

/-!
The pieces of JSON text: white space, strings, numbers and words, each read from the front of a
text with what follows it. A fault is malformed text or text that ends too early. Values that nobody
asks for are skipped by rules of their own: their strings may name half a surrogate pair, their
numbers may have any size, and a number that breaks off is malformed.
-/

namespace Agenda.Json
open Agenda.Text

/-- What can be wrong with a text as JSON. -/
inductive Fault where
  | malformed
  | truncated
  deriving DecidableEq

/-- White space between the pieces. -/
def isSpace (c : Char) : Bool := c == ' ' || c == '\t' || c == '\n' || c == '\r'

/-- The text from its first character that is not white space. -/
def skipSpace (cs : List Char) : List Char := cs.dropWhile isSpace

/-! ### Strings -/

/-- The value of a hexadecimal digit in either letter case. -/
def hexDigit? (c : Char) : Option Nat :=
  if c.isDigit then some (c.toNat - 48)
  else if 'a' ≤ c ∧ c ≤ 'f' then some (c.toNat - 87)
  else if 'A' ≤ c ∧ c ≤ 'F' then some (c.toNat - 55)
  else none

/-- Reads the four digits after `\u`; fewer than four bytes of text are too few. -/
def scanUnit (cs : List Char) : Except Fault (Nat × List Char) :=
  match cs with
  | a :: b :: c :: d :: rest =>
    match hexDigit? a, hexDigit? b, hexDigit? c, hexDigit? d with
    | some a, some b, some c, some d => .ok (((a * 16 + b) * 16 + c) * 16 + d, rest)
    | _, _, _, _ => .error .malformed
  | _ => .error (if (String.ofList cs).utf8ByteSize < 4 then .truncated else .malformed)

/-- The character of an escape with one letter. -/
def plainEscape? : Char → Option Char
  | '"' => some '"'
  | '\\' => some '\\'
  | '/' => some '/'
  | 'b' => some (Char.ofNat 8)
  | 'f' => some (Char.ofNat 12)
  | 'n' => some '\n'
  | 'r' => some '\r'
  | 't' => some '\t'
  | _ => none

/-- Reads the second half of a surrogate pair and gives the character of the pair. -/
def scanLowUnit (high : Nat) : List Char → Except Fault (Char × List Char)
  | [] => .error .truncated
  | '\\' :: [] => .error .truncated
  | '\\' :: 'u' :: cs => do
    let (low, rest) ← scanUnit cs
    if 0xDC00 ≤ low ∧ low ≤ 0xDFFF then
      .ok (Char.ofNat (0x10000 + (high - 0xD800) * 0x400 + (low - 0xDC00)), rest)
    else .error .malformed
  | _ => .error .malformed

/-- Reads an escape after its backslash. -/
def scanEscape : List Char → Except Fault (Char × List Char)
  | [] => .error .truncated
  | 'u' :: cs => do
    let (unit, rest) ← scanUnit cs
    if 0xDC00 ≤ unit ∧ unit ≤ 0xDFFF then .error .malformed
    else if 0xD800 ≤ unit ∧ unit ≤ 0xDBFF then scanLowUnit unit rest
    else .ok (Char.ofNat unit, rest)
  | c :: cs =>
    match plainEscape? c with
    | some c => .ok (c, cs)
    | none => .error .malformed

/-- Passes over an escape after its backslash, whatever unit it names. -/
def skipEscape : List Char → Except Fault (List Char)
  | [] => .error .truncated
  | 'u' :: cs => (scanUnit cs).map (·.2)
  | c :: cs => if (plainEscape? c).isSome then .ok cs else .error .malformed

theorem scanUnit_length {cs rest : List Char} {n : Nat} (h : scanUnit cs = .ok (n, rest)) :
    rest.length < cs.length := by
  unfold scanUnit at h
  split at h
  · split at h
    · cases h; simp only [List.length_cons]; omega
    · cases h
  · cases h

theorem scanLowUnit_length {high : Nat} {cs rest : List Char} {c : Char}
    (h : scanLowUnit high cs = .ok (c, rest)) : rest.length < cs.length := by
  unfold scanLowUnit at h
  split at h
  · cases h
  · cases h
  · rename_i cs
    cases hu : scanUnit cs with
    | error e => simp [hu, bind, Except.bind] at h
    | ok p =>
      have := scanUnit_length hu
      simp only [hu, bind, Except.bind] at h
      split at h
      · simp only [Except.ok.injEq, Prod.mk.injEq] at h
        have := h.2 ▸ this
        simp only [List.length_cons]; omega
      · cases h
  · cases h

theorem scanEscape_length {cs rest : List Char} {c : Char} (h : scanEscape cs = .ok (c, rest)) :
    rest.length < cs.length := by
  unfold scanEscape at h
  split at h
  · cases h
  · rename_i cs
    cases hu : scanUnit cs with
    | error e => simp [hu, bind, Except.bind] at h
    | ok p =>
      have hlt := scanUnit_length hu
      simp only [hu, bind, Except.bind] at h
      split at h
      · cases h
      · split at h
        · have := scanLowUnit_length h
          simp only [List.length_cons]; omega
        · simp only [Except.ok.injEq, Prod.mk.injEq] at h
          have := h.2 ▸ hlt
          simp only [List.length_cons]; omega
  · split at h <;> cases h
    simp only [List.length_cons]; omega

theorem skipEscape_length {cs rest : List Char} (h : skipEscape cs = .ok rest) :
    rest.length < cs.length := by
  unfold skipEscape at h
  split at h
  · cases h
  · rename_i cs
    cases hu : scanUnit cs with
    | error e => simp [hu, Except.map] at h
    | ok p =>
      have := scanUnit_length hu
      simp only [hu, Except.map, Except.ok.injEq] at h
      subst h
      simp only [List.length_cons]; omega
  · split at h <;> cases h
    simp

/-- Reads a string after its opening quote. -/
def scanString (cs : List Char) : Except Fault (List Char × List Char) :=
  match cs with
  | [] => .error .truncated
  | '"' :: rest => .ok ([], rest)
  | '\\' :: rest =>
    match _h : scanEscape rest with
    | .error e => .error e
    | .ok (c, rest') => (scanString rest').map fun (s, rest) => (c :: s, rest)
  | c :: rest =>
    if c.toNat < 0x20 then .error .malformed
    else (scanString rest).map fun (s, rest) => (c :: s, rest)
termination_by cs.length
decreasing_by
  · have := scanEscape_length _h
    simp only [List.length_cons]; omega
  · simp

/-- Passes over a string after its opening quote. -/
def skipString (cs : List Char) : Except Fault (List Char) :=
  match cs with
  | [] => .error .truncated
  | '"' :: rest => .ok rest
  | '\\' :: rest =>
    match _h : skipEscape rest with
    | .error e => .error e
    | .ok rest' => skipString rest'
  | c :: rest => if c.toNat < 0x20 then .error .malformed else skipString rest
termination_by cs.length
decreasing_by
  · have := skipEscape_length _h
    simp only [List.length_cons]; omega
  · simp

/-! ### Numbers -/

/-- The digits at the front of a text, of which there has to be one. -/
def scanDigits (cs : List Char) : Except Fault (List Char × List Char) :=
  match cs with
  | [] => .error .truncated
  | c :: _ =>
    if c.isDigit then .ok (cs.takeWhile Char.isDigit, cs.dropWhile Char.isDigit)
    else .error .malformed

/-- Reads the digits before the point; a zero stands alone. -/
def scanWhole (cs : List Char) : Except Fault (List Char × List Char) :=
  match cs with
  | '0' :: c :: rest => if c.isDigit then .error .malformed else .ok (['0'], c :: rest)
  | cs => scanDigits cs

/-- Reads a point and digits, if a point comes next. -/
def scanFraction : List Char → Except Fault (Option (List Char) × List Char)
  | '.' :: cs => (scanDigits cs).map fun (ds, rest) => (some ds, rest)
  | cs => .ok (none, cs)

/-- Reads an exponent, if its letter comes next; the result says whether it is negative. -/
def scanExponent : List Char → Except Fault (Option (Bool × List Char) × List Char)
  | c :: cs =>
    if c = 'e' ∨ c = 'E' then
      let (below, cs) := match cs with
        | '-' :: cs => (true, cs)
        | '+' :: cs => (false, cs)
        | cs => (false, cs)
      (scanDigits cs).map fun (ds, rest) => (some (below, ds), rest)
    else .ok (none, c :: cs)
  | [] => .ok (none, [])

/-- Reads the spelling of a number. -/
def scanSpelling (cs : List Char) : Except Fault (Spelling × List Char) := do
  let (negative, cs) := match cs with
    | '-' :: cs => (true, cs)
    | cs => (false, cs)
  let (whole, cs) ← scanWhole cs
  let (fraction, cs) ← scanFraction cs
  let (exponent, cs) ← scanExponent cs
  .ok ({ negative, whole, fraction, exponent }, cs)

/-- Reads a number, which must not be too large. -/
def scanNumber (cs : List Char) : Except Fault (Number × List Char) := do
  let (spelling, cs) ← scanSpelling cs
  match spelling.value? with
  | some n => .ok (n, cs)
  | none => .error .malformed

/-- Passes over a number of any size. -/
def skipNumber (cs : List Char) : Except Fault (List Char) :=
  match scanSpelling cs with
  | .ok (_, cs) => .ok cs
  | .error _ => .error .malformed

/-! ### Words and heads -/

/-- Reads the rest of a word. -/
def scanWord : List Char → List Char → Except Fault (List Char)
  | [], cs => .ok cs
  | _ :: _, [] => .error .truncated
  | l :: word, c :: cs => if c = l then scanWord word cs else .error .malformed

/-- Reads a scalar or the opening bracket of an array or an object. -/
def scanHead (cs : List Char) : Except Fault (Head × List Char) :=
  match skipSpace cs with
  | [] => .error .truncated
  | '[' :: cs => .ok (.array, cs)
  | '{' :: cs => .ok (.object, cs)
  | '"' :: cs => (scanString cs).map fun (s, rest) => (.scalar (.string (String.ofList s)), rest)
  | 'n' :: cs => (scanWord ['u', 'l', 'l'] cs).map fun rest => (.scalar .null, rest)
  | 't' :: cs => (scanWord ['r', 'u', 'e'] cs).map fun rest => (.scalar (.boolean true), rest)
  | 'f' :: cs => (scanWord ['a', 'l', 's', 'e'] cs).map fun rest => (.scalar (.boolean false), rest)
  | c :: cs =>
    if c = '-' ∨ c.isDigit then
      (scanNumber (c :: cs)).map fun (n, rest) => (.scalar (.number n), rest)
    else .error .malformed

/-- Reads the key of a member. -/
def scanKey (cs : List Char) : Except Fault (String × List Char) :=
  match skipSpace cs with
  | [] => .error .truncated
  | c :: cs =>
    if c = '"' then (scanString cs).map fun (s, rest) => (String.ofList s, rest)
    else .error .malformed

/-- Reads the colon between a key and its value. -/
def scanColon (cs : List Char) : Except Fault (List Char) :=
  match skipSpace cs with
  | [] => .error .truncated
  | c :: cs => if c = ':' then .ok cs else .error .malformed

/-! ### Sequences -/

/--
Folds over the parts of an array or an object, from the first part on, up to its closing bracket.
Every part takes at least one character, so a fuel of the text's length is enough.
-/
def foldParts {ε σ : Type} (fault : Fault → ε) (close : Char)
    (step : σ → List Char → Except ε (σ × List Char)) :
    Nat → σ → List Char → Except ε (σ × List Char)
  | 0, _, _ => .error (fault .truncated)
  | fuel + 1, s, cs => do
    let (s, cs) ← step s cs
    match skipSpace cs with
    | [] => .error (fault .truncated)
    | c :: cs =>
      if c = ',' then foldParts fault close step fuel s cs
      else if c = close then .ok (s, cs)
      else .error (fault .malformed)

/-- Folds over the parts of an array or an object after its opening bracket. -/
def foldSequence {ε σ : Type} (fault : Fault → ε) (close : Char)
    (step : σ → List Char → Except ε (σ × List Char)) (s : σ) (cs : List Char) :
    Except ε (σ × List Char) :=
  match skipSpace cs with
  | [] => .error (fault .truncated)
  | c :: rest =>
    if c = close then .ok (s, rest) else foldParts fault close step (rest.length + 1) s (c :: rest)

end Agenda.Json
