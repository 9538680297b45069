import Agenda.Json.Reader

/-!
Passing over a value that could be read. Whoever reads a value and whoever passes over it stop at
the same place, and a fold over the parts of a sequence can be taken apart into reading the parts
and folding over what was read. Passing over has a fuel; it is the length of the text, and it is
enough because every bracket takes a character.
-/

namespace Agenda.Json
open Agenda.Text

/-! ### Steps that may fail -/

section Steps
variable {ε δ α β : Type}

/-- Two steps in sequence succeed iff both do, the second one from what the first one gives. -/
theorem bind_eq_ok {x : Except ε α} {f : α → Except ε β} {b : β} :
    (x >>= f) = .ok b ↔ ∃ a, x = .ok a ∧ f a = .ok b := by
  cases x <;> simp [bind, Except.bind]

theorem map_eq_ok {x : Except ε α} {f : α → β} {b : β} :
    x.map f = .ok b ↔ ∃ a, x = .ok a ∧ f a = b := by
  cases x <;> simp [Except.map]

theorem mapError_ok {f : ε → δ} {a : α} : (Except.ok a).mapError f = .ok a := rfl

theorem mapError_error {f : ε → δ} {e : ε} :
    (Except.error e : Except ε α).mapError f = .error (f e) := rfl

theorem mapError_eq_ok {x : Except ε α} {f : ε → δ} {a : α} : x.mapError f = .ok a ↔ x = .ok a := by
  cases x with
  | ok b => rw [mapError_ok, Except.ok.injEq, Except.ok.injEq]
  | error e => simp only [mapError_error, reduceCtorEq]

end Steps

/-! ### Texts get shorter -/

theorem skipSpace_length (cs : List Char) : (skipSpace cs).length ≤ cs.length :=
  (List.dropWhile_suffix isSpace).length_le

theorem scanString_length {cs s rest : List Char} (h : scanString cs = .ok (s, rest)) :
    rest.length < cs.length := by
  fun_induction scanString cs generalizing s with
  | case1 => cases h
  | case2 rest' => cases h; simp
  | case3 cs' e he => cases h
  | case4 cs' c rest' he ih =>
    obtain ⟨⟨s', rest''⟩, hs, heq⟩ := map_eq_ok.1 h
    cases heq
    have h1 := ih hs
    have h2 := scanEscape_length he
    simp only [List.length_cons]
    omega
  | case5 => cases h
  | case6 c cs' _ _ hlow ih =>
    obtain ⟨⟨s', rest''⟩, hs, heq⟩ := map_eq_ok.1 h
    cases heq
    have h1 := ih hs
    simp only [List.length_cons]
    omega

theorem scanDigits_length {cs ds rest : List Char} (h : scanDigits cs = .ok (ds, rest)) :
    rest.length < cs.length := by
  unfold scanDigits at h
  split at h
  · cases h
  · rename_i c cs
    split at h
    · rename_i hdigit
      cases h
      rw [List.dropWhile_cons, if_pos hdigit]
      exact Nat.lt_succ_of_le (List.dropWhile_suffix Char.isDigit).length_le
    · cases h

theorem scanWhole_length {cs ds rest : List Char} (h : scanWhole cs = .ok (ds, rest)) :
    rest.length < cs.length := by
  unfold scanWhole at h
  split at h
  · split at h
    · cases h
    · cases h
      simp
  · exact scanDigits_length h

theorem scanFraction_length {cs rest : List Char} {ds : Option (List Char)}
    (h : scanFraction cs = .ok (ds, rest)) : rest.length ≤ cs.length := by
  unfold scanFraction at h
  split at h
  · obtain ⟨⟨ds', rest'⟩, hs, heq⟩ := map_eq_ok.1 h
    cases heq
    have hlt := scanDigits_length hs
    simp only [List.length_cons]
    omega
  · cases h
    exact Nat.le_refl _

theorem scanExponent_length {cs rest : List Char} {ds : Option (Bool × List Char)}
    (h : scanExponent cs = .ok (ds, rest)) : rest.length ≤ cs.length := by
  unfold scanExponent at h
  split at h
  · split at h
    · simp only at h
      -- the digits stand behind a sign or directly behind the letter
      split at h
      all_goals
        obtain ⟨⟨ds', rest'⟩, hs, heq⟩ := map_eq_ok.1 h
        cases heq
        have hlt := scanDigits_length hs
        simp only [List.length_cons] at hlt ⊢
        omega
    · cases h
      exact Nat.le_refl _
  · cases h
    exact Nat.le_refl _

theorem scanSpelling_length {cs rest : List Char} {spelling : Spelling}
    (h : scanSpelling cs = .ok (spelling, rest)) : rest.length < cs.length := by
  unfold scanSpelling at h
  simp only at h
  -- with or without a minus sign
  split at h
  all_goals
    obtain ⟨⟨whole, cs1⟩, h1, h⟩ := bind_eq_ok.1 h
    obtain ⟨⟨fraction, cs2⟩, h2, h⟩ := bind_eq_ok.1 h
    obtain ⟨⟨exponent, cs3⟩, h3, h⟩ := bind_eq_ok.1 h
    cases h
    have hwhole := scanWhole_length h1
    have hfraction : cs2.length ≤ cs1.length := scanFraction_length h2
    have hexponent : cs3.length ≤ cs2.length := scanExponent_length h3
    simp only [List.length_cons] at hwhole ⊢
    omega

theorem scanNumber_length {cs rest : List Char} {n : Number} (h : scanNumber cs = .ok (n, rest)) :
    rest.length < cs.length := by
  obtain ⟨⟨spelling, cs'⟩, hs, h⟩ := bind_eq_ok.1 h
  simp only at h
  split at h
  · cases h
    exact scanSpelling_length hs
  · cases h

theorem scanWord_length {word cs rest : List Char} (h : scanWord word cs = .ok rest) :
    rest.length ≤ cs.length := by
  fun_induction scanWord word cs with
  | case1 cs => cases h; exact Nat.le_refl _
  | case2 => cases h
  | case3 l word cs ih =>
    have hle := ih h
    simp only [List.length_cons]
    omega
  | case4 => cases h

/-- A head takes at least one character. -/
theorem scanHead_length {cs rest : List Char} {head : Head} (h : scanHead cs = .ok (head, rest)) :
    rest.length < cs.length := by
  have hfirst : ∀ {c cs'}, skipSpace cs = c :: cs' → rest.length ≤ cs'.length →
      rest.length < cs.length := by
    intro c cs' hcs hle
    have hskip := skipSpace_length cs
    rw [hcs, List.length_cons] at hskip
    omega
  unfold scanHead at h
  split at h
  case h_1 => cases h
  case h_2 hcs => cases h; exact hfirst hcs (Nat.le_refl _)
  case h_3 hcs => cases h; exact hfirst hcs (Nat.le_refl _)
  case h_4 hcs =>
    obtain ⟨⟨s, rest'⟩, hs, heq⟩ := map_eq_ok.1 h
    cases heq
    exact hfirst hcs (Nat.le_of_lt (scanString_length hs))
  case h_8 c cs' _ _ _ _ _ _ hcs =>
    split at h
    · obtain ⟨⟨n, rest'⟩, hs, heq⟩ := map_eq_ok.1 h
      cases heq
      have hlt := scanNumber_length hs
      exact hfirst hcs (Nat.le_of_lt_succ hlt)
    · cases h
  -- the three words
  all_goals
    rename_i hcs
    obtain ⟨rest', hs, heq⟩ := map_eq_ok.1 h
    cases heq
    exact hfirst hcs (scanWord_length hs)

theorem scanKey_length {cs rest : List Char} {key : String} (h : scanKey cs = .ok (key, rest)) :
    rest.length ≤ cs.length := by
  have hskip := skipSpace_length cs
  unfold scanKey at h
  split at h
  · cases h
  · rename_i c cs' hcs
    split at h
    · obtain ⟨⟨s, rest'⟩, hs, heq⟩ := map_eq_ok.1 h
      cases heq
      have hlt := scanString_length hs
      rw [hcs, List.length_cons] at hskip
      omega
    · cases h

theorem scanColon_length {cs rest : List Char} (h : scanColon cs = .ok rest) :
    rest.length ≤ cs.length := by
  have hskip := skipSpace_length cs
  unfold scanColon at h
  split at h
  · cases h
  · rename_i c cs' hcs
    split at h
    · cases h
      rw [hcs, List.length_cons] at hskip
      omega
    · cases h

/-! ### Folds over parts that are read -/

section Folds

variable {α ε τ : Type} (fault : Fault → ε) {close : Char}
  {read : List Char → Except Fault (α × List Char)} {f : τ → α → Except ε τ}
  {step : τ → List Char → Except ε (τ × List Char)} {bound : Nat}

/--
Where the parts of a sequence can be collected, a fold whose step depends on the part that is read,
and goes on behind it, is a fold over the parts. The step has to behave so on short texts only.
-/
theorem foldParts_of_collect
    (hshort : ∀ cs part rest, read cs = .ok (part, rest) → rest.length ≤ cs.length)
    (hstep : ∀ t cs part rest, cs.length ≤ bound → read cs = .ok (part, rest) →
      step t cs = (f t part).map fun t => (t, rest)) {fuel : Nat} {before parts : List α}
    {cs rest : List Char} (hcs : cs.length ≤ bound)
    (h : foldParts id close (collect read) fuel before cs = .ok (parts, rest)) :
    rest.length ≤ cs.length ∧ ∃ new : List α, parts = new.reverse ++ before ∧
      ∀ t, foldParts fault close step fuel t cs = (new.foldlM f t).map fun t => (t, rest) := by
  induction fuel generalizing before cs with
  | zero => cases h
  | succ fuel ih =>
    rw [foldParts] at h
    obtain ⟨⟨parts', cs1⟩, hcollect, h⟩ := bind_eq_ok.1 h
    obtain ⟨⟨part, cs2⟩, hread, heq⟩ := bind_eq_ok.1 hcollect
    cases heq
    have hle := hshort cs part cs1 hread
    have hskip := skipSpace_length cs1
    have hfirst := fun t => hstep t cs part cs1 hcs hread
    simp only at h
    cases hs : skipSpace cs1 with
    | nil => rw [hs] at h; cases h
    | cons c cs3 =>
      rw [hs, List.length_cons] at hskip
      rw [hs] at h
      simp only at h
      split at h
      · -- another part follows
        rename_i hcomma
        obtain ⟨hrest, new, hparts, hfold⟩ := ih (by omega) h
        refine ⟨by omega, part :: new, by rw [hparts, List.reverse_cons, List.append_assoc]; rfl, ?_⟩
        intro t
        rw [foldParts, hfirst, List.foldlM_cons]
        cases f t part with
        | error e => rfl
        | ok t' =>
          simp only [Except.map, bind, Except.bind, hs]
          rw [if_pos hcomma, hfold]
          rfl
      · rename_i hcomma
        split at h
        · -- the sequence ends
          rename_i hclose
          cases h
          refine ⟨by omega, [part], rfl, ?_⟩
          intro t
          rw [foldParts, hfirst, List.foldlM_cons]
          cases f t part with
          | error e => rfl
          | ok t' =>
            simp only [Except.map, bind, Except.bind, hs]
            rw [if_neg hcomma, if_pos hclose]
            rfl
        · cases h

/-- The same for a whole sequence. -/
theorem foldSequence_of_collect
    (hshort : ∀ cs part rest, read cs = .ok (part, rest) → rest.length ≤ cs.length)
    (hstep : ∀ t cs part rest, cs.length ≤ bound → read cs = .ok (part, rest) →
      step t cs = (f t part).map fun t => (t, rest)) {parts : List α} {cs rest : List Char}
    (hcs : cs.length ≤ bound)
    (h : foldSequence id close (collect read) [] cs = .ok (parts, rest)) :
    rest.length ≤ cs.length ∧ ∀ t, foldSequence fault close step t cs =
      (parts.reverse.foldlM f t).map fun t => (t, rest) := by
  have hskip := skipSpace_length cs
  unfold foldSequence at h ⊢
  cases hs : skipSpace cs with
  | nil => rw [hs] at h; cases h
  | cons c cs' =>
    rw [hs] at h hskip
    simp only at h ⊢
    split at h
    · rename_i hclose
      cases h
      refine ⟨by simp only [List.length_cons] at hskip; omega, ?_⟩
      intro t
      rw [if_pos hclose]
      rfl
    · rename_i hclose
      obtain ⟨hrest, new, hparts, hfold⟩ :=
        foldParts_of_collect fault hshort hstep (Nat.le_trans hskip hcs) h
      refine ⟨Nat.le_trans hrest hskip, ?_⟩
      intro t
      rw [if_neg hclose, hfold, hparts, List.append_nil, List.reverse_reverse]

end Folds

/-! ### Reading takes characters -/

theorem foldSequence_collect_length {α : Type} {close : Char}
    {read : List Char → Except Fault (α × List Char)}
    (hshort : ∀ cs part rest, read cs = .ok (part, rest) → rest.length ≤ cs.length)
    {parts : List α} {cs rest : List Char}
    (h : foldSequence id close (collect read) [] cs = .ok (parts, rest)) :
    rest.length ≤ cs.length := by
  have hstep : ∀ (t : Unit) cs' part rest', cs'.length ≤ cs.length →
      read cs' = .ok (part, rest') → (read cs').map (fun p => ((), p.2)) =
        ((fun _ _ => .ok () : Unit → α → Except Fault Unit) t part).map fun t => (t, rest') := by
    intro t cs' part rest' _ hread
    rw [hread]
    rfl
  exact (foldSequence_of_collect id hshort hstep (Nat.le_refl _) h).1

theorem readMember_length {inner : List Char → Except Fault (Json × List Char)}
    (hinner : ∀ cs value rest, inner cs = .ok (value, rest) → rest.length ≤ cs.length)
    {cs rest : List Char} {member : String × Json}
    (h : readMember inner cs = .ok (member, rest)) : rest.length ≤ cs.length := by
  obtain ⟨⟨key, cs1⟩, hkey, h⟩ := bind_eq_ok.1 h
  obtain ⟨cs2, hcolon, h⟩ := bind_eq_ok.1 h
  obtain ⟨⟨value, cs3⟩, hvalue, heq⟩ := bind_eq_ok.1 h
  cases heq
  have h1 := scanKey_length hkey
  have h2 := scanColon_length hcolon
  have h3 := hinner _ _ _ hvalue
  omega

theorem readWith_length {inner : List Char → Except Fault (Json × List Char)}
    (hinner : ∀ cs value rest, inner cs = .ok (value, rest) → rest.length ≤ cs.length)
    {cs rest : List Char} {value : Json} (h : readWith inner cs = .ok (value, rest)) :
    rest.length ≤ cs.length := by
  obtain ⟨⟨head, cs1⟩, hhead, h⟩ := bind_eq_ok.1 h
  have hlt := scanHead_length hhead
  cases head with
  | scalar value =>
    cases h
    omega
  | array =>
    obtain ⟨⟨items, cs2⟩, hitems, heq⟩ := bind_eq_ok.1 h
    cases heq
    have hle := foldSequence_collect_length hinner hitems
    omega
  | object =>
    obtain ⟨⟨members, cs2⟩, hmembers, heq⟩ := bind_eq_ok.1 h
    cases heq
    have hle := foldSequence_collect_length (fun _ _ _ => readMember_length hinner) hmembers
    omega

/-- A text that is read at the innermost level is read at every level. -/
theorem readWith_of_readScalar {cs rest : List Char} {value : Json}
    (h : readScalar cs = .ok (value, rest))
    (inner : List Char → Except Fault (Json × List Char)) :
    readWith inner cs = .ok (value, rest) := by
  obtain ⟨⟨head, cs1⟩, hhead, h⟩ := bind_eq_ok.1 h
  cases head with
  | scalar value =>
    cases h
    simp only [readWith, hhead, bind, Except.bind]
  | array => cases h
  | object => cases h

theorem readNested_length {levels : Nat} {cs rest : List Char} {value : Json}
    (h : readNested levels cs = .ok (value, rest)) : rest.length ≤ cs.length := by
  induction levels generalizing cs rest value with
  | zero =>
    have hread := readWith_of_readScalar h fun _ => .error .malformed
    exact readWith_length (fun _ _ _ he => by cases he) hread
  | succ levels ih => exact readWith_length (fun _ _ _ => ih) h

/-! ### Passing over what can be read -/

theorem skipString_unit {cs rest : List Char} {n : Nat} (h : scanUnit cs = .ok (n, rest)) :
    skipString ('\\' :: 'u' :: cs) = skipString rest := by
  have hskip : skipEscape ('u' :: cs) = .ok rest := by simp only [skipEscape, h, Except.map]
  rw [skipString]
  split
  · rename_i e he
    rw [hskip] at he
    cases he
  · rename_i rest' he
    rw [hskip] at he
    cases he
    rfl

/-- The second half of a pair is an escape of its own. -/
theorem unit_of_scanLowUnit {high : Nat} {cs rest : List Char} {c : Char}
    (h : scanLowUnit high cs = .ok (c, rest)) :
    ∃ cs' low, cs = '\\' :: 'u' :: cs' ∧ scanUnit cs' = .ok (low, rest) := by
  unfold scanLowUnit at h
  split at h
  case h_1 => cases h
  case h_2 => cases h
  case h_3 cs' =>
    obtain ⟨⟨low, cs2⟩, hlow, h⟩ := bind_eq_ok.1 h
    simp only at h
    split at h
    · simp only [Except.ok.injEq, Prod.mk.injEq] at h
      exact ⟨cs', low, rfl, h.2 ▸ hlow⟩
    · cases h
  case h_4 => cases h

/-- An escape that is read is passed over, a pair of surrogates as two escapes. -/
theorem skipString_backslash {cs rest : List Char} {c : Char} (h : scanEscape cs = .ok (c, rest)) :
    skipString ('\\' :: cs) = skipString rest := by
  unfold scanEscape at h
  split at h
  case h_1 => cases h
  case h_2 cs' =>
    obtain ⟨⟨unit, cs1⟩, hunit, h⟩ := bind_eq_ok.1 h
    rw [skipString_unit hunit]
    simp only at h
    split at h
    · cases h
    · split at h
      · obtain ⟨cs2, low, rfl, hlow⟩ := unit_of_scanLowUnit h
        exact skipString_unit hlow
      · simp only [Except.ok.injEq, Prod.mk.injEq] at h
        rw [h.2]
  case h_3 c' cs' hne =>
    split at h
    · rename_i c'' hplain
      cases h
      have hskip : skipEscape (c' :: rest) = .ok rest := by
        rw [skipEscape, hplain]
        · rfl
        · exact hne
      rw [skipString]
      split
      · rename_i e he
        rw [hskip] at he
        cases he
      · rename_i rest' he
        rw [hskip] at he
        cases he
        rfl
    · cases h

theorem skipString_of_scanString {cs s rest : List Char} (h : scanString cs = .ok (s, rest)) :
    skipString cs = .ok rest := by
  fun_induction scanString cs generalizing s with
  | case1 => cases h
  | case2 rest' => cases h; rw [skipString]
  | case3 cs' e he => cases h
  | case4 cs' c rest' he ih =>
    obtain ⟨⟨s', rest''⟩, hs, heq⟩ := map_eq_ok.1 h
    cases heq
    rw [skipString_backslash he]
    exact ih hs
  | case5 => cases h
  | case6 c cs' hquote hslash hlow ih =>
    obtain ⟨⟨s', rest''⟩, hs, heq⟩ := map_eq_ok.1 h
    cases heq
    rw [skipString, if_neg hlow]
    · exact ih hs
    · exact hquote
    · exact hslash

theorem skipKey_of_scanKey {cs rest : List Char} {key : String} (h : scanKey cs = .ok (key, rest)) :
    skipKey cs = .ok rest := by
  unfold scanKey at h
  split at h
  · cases h
  · rename_i c cs' hcs
    split at h
    · rename_i hquote
      obtain ⟨⟨s, rest'⟩, hs, heq⟩ := map_eq_ok.1 h
      cases heq
      simp only [skipKey, hcs]
      rw [if_pos hquote]
      exact skipString_of_scanString hs
    · cases h

theorem skipNumber_of_scanNumber {cs rest : List Char} {n : Number}
    (h : scanNumber cs = .ok (n, rest)) : skipNumber cs = .ok rest := by
  obtain ⟨⟨spelling, cs'⟩, hs, h⟩ := bind_eq_ok.1 h
  simp only at h
  split at h
  · cases h
    simp only [skipNumber, hs]
  · cases h

section Values

variable {inner : List Char → Except Fault (Json × List Char)}
  {skip : List Char → Except Fault (List Char)} {bound : Nat}

/-- A sequence that is read is passed over, if its parts are. -/
theorem skipSequence_of_collect {α : Type} {close : Char}
    {read : List Char → Except Fault (α × List Char)}
    (hshort : ∀ cs part rest, read cs = .ok (part, rest) → rest.length ≤ cs.length)
    (hskip : ∀ cs part rest, cs.length ≤ bound → read cs = .ok (part, rest) → skip cs = .ok rest)
    {parts : List α} {cs rest : List Char} (hcs : cs.length ≤ bound)
    (h : foldSequence id close (collect read) [] cs = .ok (parts, rest)) :
    skipSequence close skip cs = .ok rest := by
  have hstep : ∀ (t : Unit) cs part rest, cs.length ≤ bound → read cs = .ok (part, rest) →
      (skip cs).map (fun cs => ((), cs)) =
        ((fun _ _ => .ok () : Unit → α → Except Fault Unit) t part).map fun t => (t, rest) := by
    intro t cs part rest hle hread
    rw [hskip cs part rest hle hread]
    rfl
  have hfold := (foldSequence_of_collect id hshort hstep hcs h).2 ()
  have hunit : ∀ parts : List α,
      parts.foldlM (fun _ _ => .ok () : Unit → α → Except Fault Unit) () = .ok () := by
    intro parts
    induction parts with
    | nil => rfl
    | cons part parts ih => exact ih
  rw [skipSequence, hfold, hunit]
  rfl

/-- A value that is read is passed over, if the values inside it are. -/
theorem skipWith_of_readWith
    (hshort : ∀ cs value rest, inner cs = .ok (value, rest) → rest.length ≤ cs.length)
    (hinner : ∀ cs value rest, cs.length < bound → inner cs = .ok (value, rest) →
      skip cs = .ok rest)
    {cs rest : List Char} {value : Json} (hcs : cs.length ≤ bound)
    (h : readWith inner cs = .ok (value, rest)) : skipWith skip cs = .ok rest := by
  obtain ⟨⟨head, cs1⟩, hhead, h⟩ := bind_eq_ok.1 h
  have hlt := scanHead_length hhead
  have hscalar : ∀ {scalar}, head = .scalar scalar → cs1 = rest := by
    rintro scalar rfl
    cases h
    rfl
  unfold scanHead at hhead
  split at hhead
  case h_1 => cases hhead
  case h_2 hs =>
    cases hhead
    obtain ⟨⟨items, cs2⟩, hitems, heq⟩ := bind_eq_ok.1 h
    cases heq
    simp only [skipWith, hs]
    have hitem : ∀ cs value rest, cs.length ≤ bound - 1 → inner cs = .ok (value, rest) →
        skip cs = .ok rest := fun cs value rest hle => hinner cs value rest (by omega)
    exact skipSequence_of_collect hshort hitem (by omega) hitems
  case h_3 hs =>
    cases hhead
    obtain ⟨⟨members, cs2⟩, hmembers, heq⟩ := bind_eq_ok.1 h
    cases heq
    simp only [skipWith, hs]
    have hmember : ∀ cs member rest, cs.length ≤ bound - 1 →
        readMember inner cs = .ok (member, rest) → skipMember skip cs = .ok rest := by
      intro cs member rest hle hmember
      obtain ⟨⟨key, cs3⟩, hkey, hmember⟩ := bind_eq_ok.1 hmember
      obtain ⟨cs4, hcolon, hmember⟩ := bind_eq_ok.1 hmember
      obtain ⟨⟨value, cs5⟩, hvalue, heq⟩ := bind_eq_ok.1 hmember
      cases heq
      have h3 := scanKey_length hkey
      have h4 := scanColon_length hcolon
      simp only [skipMember, skipKey_of_scanKey hkey, hcolon, bind, Except.bind]
      exact hinner cs4 value rest (by omega) hvalue
    exact skipSequence_of_collect (fun _ _ _ => readMember_length hshort) hmember (by omega)
      hmembers
  case h_4 hs =>
    obtain ⟨⟨s, rest'⟩, hstring, heq⟩ := map_eq_ok.1 hhead
    cases heq
    simp only [skipWith, hs]
    rw [← hscalar rfl]
    exact skipString_of_scanString hstring
  case h_8 c cs' h1 h2 h3 h4 h5 h6 hs =>
    split at hhead
    · rename_i hnumber
      obtain ⟨⟨n, rest'⟩, hscan, heq⟩ := map_eq_ok.1 hhead
      cases heq
      rw [skipWith, hs]
      simp only
      rw [if_pos hnumber, ← hscalar rfl]
      exact skipNumber_of_scanNumber hscan
    · cases hhead
  -- the three words
  all_goals
    rename_i hs
    obtain ⟨rest', hword, heq⟩ := map_eq_ok.1 hhead
    cases heq
    simp only [skipWith, hs]
    rw [← hscalar rfl]
    exact hword

end Values

/-- Whoever reads a value stops where passing over it stops; the fuel is the room for brackets. -/
theorem skipNested_of_readNested {levels fuel : Nat} {cs rest : List Char} {value : Json}
    (hfuel : cs.length < fuel) (h : readNested levels cs = .ok (value, rest)) :
    skipNested fuel cs = .ok rest := by
  induction fuel generalizing levels cs rest value with
  | zero => exact absurd hfuel (Nat.not_lt_zero _)
  | succ fuel ih =>
    have hcs : cs.length ≤ fuel := Nat.le_of_lt_succ hfuel
    cases levels with
    | zero =>
      have hread := readWith_of_readScalar h fun _ => .error .malformed
      exact skipWith_of_readWith (fun _ _ _ he => by cases he) (fun _ _ _ _ he => by cases he)
        hcs hread
    | succ levels =>
      exact skipWith_of_readWith (fun _ _ _ => readNested_length) (fun _ _ _ hlt => ih hlt) hcs h

/-- CORRECT: a value that can be read can be passed over, and the text goes on at the same place. -/
theorem skipValue_of_readNested {levels : Nat} {cs rest : List Char} {value : Json}
    (h : readNested levels cs = .ok (value, rest)) : skipValue cs = .ok rest :=
  skipNested_of_readNested (Nat.lt_succ_self _) h

end Agenda.Json
