import Agenda.Json.Pretty
import Agenda.Json.Reader
import Mathlib.Tactic.SplitIfs

/-!
Reading what has been written. Each piece is read in front of anything: an escaped character, a
string, a member with a string. So an object whose values are strings is read back from its lines,
however the lines are indented and whatever white space follows.

      c                      written                read by
      quote, backslash       \c                     plainEscape?
      \n \r \t, 8, 12        \ and a letter         plainEscape?
      others below 32        \u and four digits     scanUnit
      all others             c                      scanString
-/

namespace Agenda.Json
open Agenda.Text

/-! ### Strings -/

/-- A string goes on behind an escape. -/
theorem scanString_backslash {cs rest : List Char} {c : Char} (h : scanEscape cs = .ok (c, rest)) :
    scanString ('\\' :: cs) = (scanString rest).map fun (s, rest) => (c :: s, rest) := by
  rw [scanString]
  split
  · rename_i e he
    rw [h] at he
    cases he
  · rename_i c' rest' he
    rw [h] at he
    cases he
    rfl

/-- A string goes on behind a character that stands for itself. -/
theorem scanString_plain {c : Char} (hquote : c ≠ '"') (hslash : c ≠ '\\') (hlow : ¬ c.toNat < 0x20)
    (cs : List Char) :
    scanString (c :: cs) = (scanString cs).map fun (s, rest) => (c :: s, rest) := by
  rw [scanString]
  · rw [if_neg hlow]
  · exact hquote
  · exact hslash

/-- The four digits of a control character. -/
theorem scanUnit_paddedHex (cs : List Char) :
    ∀ n < 0x20, scanUnit (paddedHex 4 n ++ cs) = .ok (n, cs) := by
  have hdigits : ∀ n < 0x20, paddedHex 4 n =
      ['0', '0', Nat.digitChar (n / 16), Nat.digitChar (n % 16)] := by decide
  have hvalue : ∀ k < 16, hexDigit? (Nat.digitChar k) = some k := by decide
  have hzero : hexDigit? '0' = some 0 := rfl
  intro n hn
  have hhigh := hvalue (n / 16) (by omega)
  have hlow := hvalue (n % 16) (by omega)
  rw [hdigits n hn]
  simp only [List.cons_append, List.nil_append, scanUnit, hzero, hhigh, hlow]
  congr 2
  omega

theorem scanEscape_control {n : Nat} (h : n < 0x20) (cs : List Char) :
    scanEscape ('u' :: (paddedHex 4 n ++ cs)) = .ok (Char.ofNat n, cs) := by
  simp only [scanEscape, scanUnit_paddedHex cs n h, bind, Except.bind]
  rw [if_neg (by omega), if_neg (by omega)]

/-- An escaped character is read as that character. -/
theorem scanString_escaped (c : Char) (cs : List Char) :
    scanString (escaped c ++ cs) = (scanString cs).map fun (s, rest) => (c :: s, rest) := by
  unfold escaped
  split_ifs with hmark hfeed hreturn htab hback hform hlow
  · rcases hmark with rfl | rfl
    · exact scanString_backslash rfl
    · exact scanString_backslash rfl
  · rw [hfeed]
    exact scanString_backslash rfl
  · rw [hreturn]
    exact scanString_backslash rfl
  · rw [htab]
    exact scanString_backslash rfl
  · have hc : c = Char.ofNat 8 := by rw [← hback, Char.ofNat_toNat]
    rw [hc]
    exact scanString_backslash rfl
  · have hc : c = Char.ofNat 12 := by rw [← hform, Char.ofNat_toNat]
    rw [hc]
    exact scanString_backslash rfl
  · have hread := scanEscape_control hlow cs
    rw [Char.ofNat_toNat] at hread
    exact scanString_backslash hread
  · exact scanString_plain (fun h => hmark (Or.inl h)) (fun h => hmark (Or.inr h)) hlow cs

/-- A string is read up to its closing quote. -/
theorem scanString_quoted (s rest : List Char) :
    scanString (s.flatMap escaped ++ '"' :: rest) = .ok (s, rest) := by
  induction s with
  | nil => rw [List.flatMap_nil, List.nil_append, scanString]
  | cons c s ih =>
    rw [List.flatMap_cons, List.append_assoc, scanString_escaped, ih]
    rfl

/-! ### White space -/

/-- White space in front of a text is skipped. -/
theorem skipSpace_append {gap : List Char} (h : gap.all isSpace = true) (cs : List Char) :
    skipSpace (gap ++ cs) = skipSpace cs := by
  induction gap with
  | nil => rfl
  | cons c gap ih =>
    rw [List.all_cons, Bool.and_eq_true] at h
    rw [List.cons_append, skipSpace, List.dropWhile_cons, if_pos h.1]
    exact ih h.2

/-- An indented line begins with white space. -/
theorem all_isSpace_newline (level : Nat) : (newline level).all isSpace = true := by
  rw [newline, List.all_cons, List.all_replicate]
  split <;> rfl

/-! ### Members with strings -/

/-- An object whose values are strings. -/
def ofTexts (members : List (String × String)) : Json :=
  .object (members.map fun member => (member.1, .string member.2))

/-- A member with a string. -/
def memberChars (member : String × String) : List Char :=
  quoted member.1 ++ ':' :: ' ' :: quoted member.2

theorem prettyMembers_texts (level : Nat) (members : List (String × String)) :
    prettyMembers level (members.map fun member => (member.1, .string member.2)) =
      members.flatMap fun member => ',' :: (newline level ++ memberChars member) := by
  induction members with
  | nil => rfl
  | cons member members ih =>
    rw [List.map_cons, prettyMembers, ih, List.flatMap_cons, memberChars, prettyChars, Scalar.chars]
    simp only [List.cons_append, List.append_assoc]

theorem scanHead_quoted {gap : List Char} (h : gap.all isSpace = true) (s : String)
    (rest : List Char) :
    scanHead (gap ++ (quoted s ++ rest)) = .ok (.scalar (.string s), rest) := by
  have hskip : skipSpace (quoted s ++ rest) = '"' :: (s.toList.flatMap escaped ++ '"' :: rest) := by
    simp only [quoted, List.cons_append, List.append_assoc]
    rfl
  simp only [scanHead, skipSpace_append h, hskip, scanString_quoted, Except.map, String.ofList_toList]

theorem scanKey_quoted {gap : List Char} (h : gap.all isSpace = true) (s : String)
    (rest : List Char) : scanKey (gap ++ (quoted s ++ rest)) = .ok (s, rest) := by
  have hskip : skipSpace (quoted s ++ rest) = '"' :: (s.toList.flatMap escaped ++ '"' :: rest) := by
    simp only [quoted, List.cons_append, List.append_assoc]
    rfl
  simp only [scanKey, skipSpace_append h, hskip, scanString_quoted, Except.map, if_true,
    String.ofList_toList]

/-- A string is a value at every level. -/
theorem readNested_quoted (levels : Nat) {gap : List Char} (h : gap.all isSpace = true)
    (s : String) (rest : List Char) :
    readNested levels (gap ++ (quoted s ++ rest)) = .ok (.string s, rest) := by
  cases levels with
  | zero => simp only [readNested, readScalar, scanHead_quoted h, bind, Except.bind]
  | succ levels => simp only [readNested, readWith, scanHead_quoted h, bind, Except.bind]

/--
A fold over parts takes written parts one after the other, if each of them is read behind white
space and in front of anything; commas stand between the parts.
-/
theorem foldParts_written {α ε σ : Type} (fault : Fault → ε) {close : Char}
    {step : σ → List Char → Except ε (σ × List Char)} {write : α → List Char} {next : σ → α → σ}
    (hstep : ∀ s a gap rest, gap.all isSpace = true →
      step s (gap ++ (write a ++ rest)) = .ok (next s a, rest))
    (hclose : close ≠ ',') {line tail rest : List Char} (hline : line.all isSpace = true)
    (htail : skipSpace tail = close :: rest) (parts : List α) (part : α) {fuel : Nat}
    (hfuel : parts.length < fuel) (s : σ) {gap : List Char} (hgap : gap.all isSpace = true) :
    foldParts fault close step fuel s
        (gap ++ (write part ++ (parts.flatMap (fun a => ',' :: (line ++ write a)) ++ tail))) =
      .ok ((part :: parts).foldl next s, rest) := by
  induction parts generalizing part fuel s gap with
  | nil =>
    cases fuel with
    | zero => exact absurd hfuel (Nat.not_lt_zero _)
    | succ fuel =>
      rw [List.flatMap_nil, List.nil_append, foldParts, hstep s part gap tail hgap]
      simp only [bind, Except.bind, htail]
      rw [if_neg hclose, if_pos trivial]
      rfl
  | cons following parts ih =>
    cases fuel with
    | zero => exact absurd hfuel (Nat.not_lt_zero _)
    | succ fuel =>
      have hcomma : ∀ cs, skipSpace (',' :: cs) = ',' :: cs := fun cs => rfl
      have hrest := ih following (Nat.lt_of_succ_lt_succ hfuel) (next s part) hline
      rw [foldParts, hstep s part gap _ hgap]
      simp only [bind, Except.bind, List.flatMap_cons, List.cons_append, List.append_assoc, hcomma]
      rw [if_pos trivial, hrest]
      rfl

/-- The lines of an object of strings, from the brace on. -/
theorem prettyChars_texts (level : Nat) (member : String × String)
    (members : List (String × String)) :
    prettyChars level (ofTexts (member :: members)) =
      '{' :: (newline (level + 1) ++ (memberChars member ++
        (members.flatMap (fun member => ',' :: (newline (level + 1) ++ memberChars member)) ++
          (newline level ++ ['}'])))) := by
  rw [ofTexts, List.map_cons, prettyChars, prettyMembers_texts, memberChars, prettyChars,
    Scalar.chars]
  simp only [List.cons_append, List.append_assoc]

/-- A member with a string is read at every level. -/
theorem readMember_memberChars (levels : Nat) {gap : List Char} (h : gap.all isSpace = true)
    (member : String × String) (rest : List Char) :
    readMember (readNested levels) (gap ++ (memberChars member ++ rest)) =
      .ok ((member.1, .string member.2), rest) := by
  have hcolon : ∀ cs, scanColon (':' :: cs) = .ok cs := fun cs => rfl
  have hblank : [' '].all isSpace = true := rfl
  have hvalue := readNested_quoted levels hblank member.2 rest
  rw [List.cons_append, List.nil_append] at hvalue
  simp only [readMember, memberChars, List.append_assoc, List.cons_append, scanKey_quoted h,
    hcolon, hvalue, bind, Except.bind]

/-- Parts that are collected are in reverse order. -/
theorem foldl_collected (members : List (String × String)) (before : List (String × Json)) :
    members.foldl (fun parts member => (member.1, Json.string member.2) :: parts) before =
      (members.map fun member => (member.1, Json.string member.2)).reverse ++ before := by
  induction members generalizing before with
  | nil => rfl
  | cons member members ih =>
    rw [List.foldl_cons, ih, List.map_cons, List.reverse_cons, List.append_assoc]
    rfl

/-- The members of an object are read from their lines. -/
theorem foldSequence_memberLines (levels level : Nat) (member : String × String)
    (members : List (String × String)) {tail rest : List Char}
    (htail : skipSpace tail = '}' :: rest) :
    foldSequence id '}' (collect (readMember (readNested levels))) []
        (newline level ++ (memberChars member ++
          (members.flatMap (fun member => ',' :: (newline level ++ memberChars member)) ++
            tail))) =
      .ok (((member :: members).map fun member => (member.1, Json.string member.2)).reverse,
        rest) := by
  have hlength : members.length ≤
      (members.flatMap fun member => ',' :: (newline level ++ memberChars member)).length := by
    induction members with
    | nil => exact Nat.zero_le _
    | cons member members ih =>
      rw [List.flatMap_cons, List.length_append, List.length_cons, List.length_cons]
      omega
  have hstep : ∀ parts (part : String × String) gap rest, gap.all isSpace = true →
      collect (readMember (readNested levels)) parts (gap ++ (memberChars part ++ rest)) =
        .ok ((part.1, Json.string part.2) :: parts, rest) := by
    intro parts part gap rest hgap
    simp only [collect, readMember_memberChars levels hgap, bind, Except.bind]
  obtain ⟨key, hkey⟩ : ∃ key, memberChars member = '"' :: key := ⟨_, rfl⟩
  have hquote : ∀ cs, skipSpace ('"' :: cs) = '"' :: cs := fun cs => rfl
  -- a comma for each further member is room enough for the fold
  have hfuel : members.length < (key ++ (members.flatMap
      (fun member => ',' :: (newline level ++ memberChars member)) ++ tail)).length + 1 := by
    rw [List.length_append, List.length_append]
    omega
  have hempty : [].all isSpace = true := rfl
  have hfold := foldParts_written id hstep (by decide) (all_isSpace_newline level) htail members
    member hfuel [] hempty
  rw [List.nil_append, hkey, List.cons_append] at hfold
  rw [foldSequence, skipSpace_append (all_isSpace_newline level), hkey, List.cons_append, hquote]
  simp only
  rw [if_neg (by decide), hfold, foldl_collected, List.append_nil]

/-- An object of strings is read from its lines, in front of anything. -/
theorem readNested_texts (levels level : Nat) (members : List (String × String))
    (rest : List Char) :
    readNested (levels + 1) (prettyChars level (ofTexts members) ++ rest) =
      .ok (ofTexts members, rest) := by
  have hbrace : ∀ cs, scanHead ('{' :: cs) = .ok (.object, cs) := fun cs => rfl
  cases members with
  | nil => rfl
  | cons member members =>
    have hclose : skipSpace (newline level ++ ('}' :: rest)) = '}' :: rest :=
      skipSpace_append (all_isSpace_newline level) _
    have hmembers := foldSequence_memberLines levels (level + 1) member members hclose
    rw [prettyChars_texts, readNested, readWith]
    simp only [List.cons_append, List.append_assoc, List.nil_append, hbrace, hmembers, bind,
      Except.bind, List.reverse_reverse]
    rfl

/-- CORRECT: an object of strings is read back from its text, with white space behind it. -/
theorem ofText_pretty_texts (members : List (String × String)) {gap : String}
    (h : gap.toList.all isSpace = true) :
    ofText (pretty (ofTexts members) ++ gap) = .ok (ofTexts members) := by
  have hgap : skipSpace gap.toList = [] := by
    have hskip := skipSpace_append h []
    rwa [List.append_nil] at hskip
  simp only [ofText, pretty, String.toList_append, String.toList_ofList, ofChars, maxLevels,
    readNested_texts 126 0, hgap, bind, Except.bind, List.isEmpty_nil, if_true]

end Agenda.Json
