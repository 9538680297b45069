import Agenda.Command.Interpretation
import Agenda.Proofs.Command.Offer

/-!
A mention as evidence. What is taken for a clock time depends on no more than the characters that
are taken: the parts of an offer end at its own characters, so that cut out of the text they are
read as the same offer. CORRECT: a mention begins with a digit and lies between two places of its
text; its characters alone are a mention of the same time, as a whole; characters that are no digits
in front of a text move the mention and change nothing else.

    text       before      matched   after
    at 3 pm,   at          3 pm      ,
    3 amend    nothing     3         amend
-/

namespace Agenda.Command
open Agenda.Calendar Agenda.Text

/-! ### Offers cut out of their text -/

namespace Offer

/-- The offer of its own characters, with nothing behind them. -/
def alone (o : Offer) : Offer := { o with after := [] }

variable {o : Offer} {text : List Char}

/-- A character at the front of the first of two texts is at the front of both together. -/
theorem head?_append_of_some {s cs : List Char} {c : Char} (h : s.head? = some c) :
    (s ++ cs).head? = some c := by
  rw [List.head?_append, h, Option.some_or]

theorem afterBlanks_eq (o : Offer) : o.afterBlanks = o.alone.afterBlanks ++ o.after := by
  simp [afterBlanks, alone]

theorem afterMinutes_eq (o : Offer) : o.afterMinutes = o.alone.afterMinutes ++ o.after := by
  rw [afterMinutes, afterBlanks_eq, ← List.append_assoc]
  rfl

theorem afterHour_eq (o : Offer) : o.afterHour = o.alone.afterHour ++ o.after := by
  rw [afterHour, afterMinutes_eq, ← List.append_assoc]
  rfl

/-- No marker is spelled by no letters. -/
theorem not_isMarker_nil (after : List Char) (half : Meridiem) : ¬ IsMarker [] after half := by
  rintro (hspelled | ⟨hspelled, -⟩) <;> cases half <;> cases hspelled

/-- A marker in front of a text is one in front of nothing. -/
theorem isMarker_alone {letters after : List Char} {half : Meridiem}
    (h : IsMarker letters after half) : IsMarker letters [] half := by
  cases h with
  | dotted spelled => exact .dotted spelled
  | plain spelled ends => exact .plain spelled (by simp)

/-- The characters of an offer are read as the same offer when nothing is behind them. -/
theorem Reads.alone (h : o.Reads text) : o.alone.Reads o.chars where
  parts := by simp [chars, afterHour, afterMinutes, afterBlanks, Offer.alone]
  hour_digits := h.hour_digits
  hour_length := by
    rcases h.hour_length with hlength | ⟨hlength, hends⟩
    · exact Or.inl hlength
    · refine Or.inr ⟨hlength, fun c hc => hends c ?_⟩
      rw [afterHour_eq]
      exact head?_append_of_some hc
  minutes_digits := h.minutes_digits
  minutes_none := by
    intro hnone a b cs hafter
    refine h.minutes_none hnone a b (cs ++ o.after) ?_
    rw [afterMinutes_eq, hafter]
    rfl
  blanks_isBlank := h.blanks_isBlank
  blanks_all := by
    intro c hc
    refine h.blanks_all c ?_
    rw [afterBlanks_eq]
    exact head?_append_of_some hc
  marker_some := fun half letters hmarker => isMarker_alone (h.marker_some half letters hmarker)
  marker_none := by
    intro hnone half letters after hafter
    obtain ⟨rfl, rfl⟩ := List.append_eq_nil_iff.1 hafter.symm
    exact not_isMarker_nil [] half

/-- The characters of an offer begin with a digit. -/
theorem Reads.exists_chars_eq (h : o.Reads text) :
    ∃ d cs, o.chars = d :: cs ∧ d.isDigit = true := by
  cases hhour : o.hour with
  | nil =>
    have hlength := h.hour_length
    simp [hhour] at hlength
  | cons d ds =>
    refine ⟨d, ds ++ minuteChars o.minutes ++ o.blanks ++ markerChars o.marker, ?_, ?_⟩
    · rw [chars, hhour]
      rfl
    · exact h.hour_digits d (by rw [hhour]; exact List.mem_cons_self)

end Offer

/-! ### Mentions cut out of their text -/

namespace TimeMention

variable {text : List Char} {m : TimeMention}

/-- The mention of a text is made by what some part of it is read as. -/
theorem exists_reads_of_find (h : find text = some m) :
    ∃ (o : Offer) (lead rest : List Char), o.Reads rest ∧ o.IsMention lead m := by
  rw [find_eq_findSome?] at h
  obtain ⟨r, -, hr⟩ := List.exists_of_findSome?_eq_some h
  obtain ⟨o, ho, hm⟩ := Run.mention?_eq_some_iff.1 hr
  exact ⟨o, _, _, ho.2, hm⟩

/-- The characters of a mention begin with a digit. -/
theorem exists_matched_eq (h : find text = some m) :
    ∃ d cs, m.matched = d :: cs ∧ d.isDigit = true := by
  obtain ⟨o, lead, rest, ho, hm⟩ := exists_reads_of_find h
  rw [hm.matched]
  exact ho.exists_chars_eq

/-- The characters of a mention are as a whole a mention of the same time. -/
theorem find_matched (h : find text = some m) : find m.matched =
    some { time := m.time, before := [], matched := m.matched, after := [] } := by
  obtain ⟨o, lead, rest, ho, hm⟩ := exists_reads_of_find h
  have halone : o.alone.IsMention []
      { time := m.time, before := [], matched := m.matched, after := [] } := by
    refine ⟨hm.hour, hm.minute, rfl, hm.matched, rfl, ?_⟩
    rw [span, hm.matched, byteLength, Nat.zero_add]
    rfl
  have hfront := ho.alone.map_behind_eq_some_iff.2 halone
  obtain ⟨n, hn, hsame⟩ := Option.map_eq_some_iff.1 hfront
  obtain ⟨d, cs, hchars, hd⟩ := ho.exists_chars_eq
  rw [hchars] at hn
  rw [hm.matched, hchars, find_of_isDigit hd, hn, Option.some_or, ← hchars, ← hm.matched, ← hsame]
  rfl

/-- The bytes of a mention lie between two places of its text. -/
theorem splitAtByte?_span (h : find text = some m) :
    splitAtByte? m.span.1 text = some (m.before, m.matched ++ m.after) ∧
      splitAtByte? m.span.2 text = some (m.before ++ m.matched, m.after) := by
  have hparts := parts_of_scan h
  have hfirst := splitAtByte?_byteLength m.before (m.matched ++ m.after)
  have hlast := splitAtByte?_byteLength (m.before ++ m.matched) m.after
  rw [← List.append_assoc, hparts] at hfirst
  rw [byteLength_append, hparts] at hlast
  exact ⟨hfirst, hlast⟩

/-- A mention takes at least one byte, and none past the end of its text. -/
theorem span_lt (h : find text = some m) : m.span.1 < m.span.2 ∧ m.span.2 ≤ byteLength text := by
  obtain ⟨d, cs, hmatched, -⟩ := exists_matched_eq h
  have hd := d.utf8Size_pos
  have hparts := congrArg byteLength (parts_of_scan h)
  rw [byteLength_append, byteLength_append] at hparts
  have hlength : byteLength m.matched = d.utf8Size + byteLength cs := by rw [hmatched, byteLength]
  simp only [span]
  omega

/-- Characters that are no digits move the mention behind them. -/
theorem span_find_append {front : List Char} (hfront : ∀ c ∈ front, c.isDigit = false)
    (text : List Char) :
    (find (front ++ text)).map (fun m => (m.time, m.span)) = (find text).map fun m =>
      (m.time, byteLength front + m.span.1, byteLength front + m.span.2) := by
  rw [find_append hfront, Option.map_map]
  refine congrArg (Option.map · (find text)) (funext fun m => ?_)
  simp [span, byteLength_append, Nat.add_assoc]

end TimeMention

/-- What an interpretation says it was read from is a mention of its start, as a whole. -/
theorem start_of_matched {command : String} {now : Instant} {i : Interpretation}
    (h : interpret command now = some i) :
    match i.matched with
    | some matched => TimeMention.find matched.toList =
        some { time := i.draft.start, before := [], matched := matched.toList, after := [] }
    | none => i.draft.start = TimeMention.defaultStart := by
  unfold interpret at h
  split at h
  · cases h
  · cases h
    cases hm : TimeMention.find command.toList with
    | none => simp [interpretText, hm, Draft.ofCommand, TimeMention.start]
    | some m =>
      have hmatched := TimeMention.find_matched hm
      simpa [interpretText, hm, Draft.ofCommand, TimeMention.start] using hmatched

/--
CORRECT: a mention takes some bytes between two places of its text, the first of them a digit, and
its characters alone are a mention of the same time from end to end. Behind characters that are no
digits it is the same mention, moved by their bytes, and where there was none there still is none.
So what an interpretation was read from is a mention of its start; without it the start is the
default one.
-/
theorem mention_is_evidence (text : List Char) :
    (∀ m, TimeMention.find text = some m →
      m.span.1 < m.span.2 ∧ m.span.2 ≤ byteLength text ∧
      splitAtByte? m.span.1 text = some (m.before, m.matched ++ m.after) ∧
      splitAtByte? m.span.2 text = some (m.before ++ m.matched, m.after) ∧
      (∃ d, m.matched.head? = some d ∧ d.isDigit = true) ∧
      (TimeMention.find m.matched).map (fun n => (n.time, n.span)) =
        some (m.time, 0, byteLength m.matched)) ∧
    (∀ front : List Char, (∀ c ∈ front, c.isDigit = false) →
      (TimeMention.find (front ++ text)).map (fun m => (m.time, m.span)) =
        (TimeMention.find text).map fun m =>
          (m.time, byteLength front + m.span.1, byteLength front + m.span.2)) ∧
    ∀ now i, interpret (String.ofList text) now = some i →
      match i.matched with
      | some matched => (TimeMention.find matched.toList).map (fun n => (n.time, n.span)) =
          some (i.draft.start, 0, byteLength matched.toList)
      | none => i.draft.start = TimeMention.defaultStart := by
  have hwhole : ∀ (time : TimeOfDay) (matched : List Char),
      (some { time := time, before := [], matched := matched, after := [] }).map
        (fun n : TimeMention => (n.time, n.span)) = some (time, 0, byteLength matched) := by
    intro time matched
    simp [TimeMention.span, byteLength]
  refine ⟨fun m hm => ?_, fun front hfront => TimeMention.span_find_append hfront text,
    fun now i hi => ?_⟩
  · obtain ⟨hpos, hle⟩ := TimeMention.span_lt hm
    obtain ⟨hfirst, hlast⟩ := TimeMention.splitAtByte?_span hm
    obtain ⟨d, cs, hmatched, hd⟩ := TimeMention.exists_matched_eq hm
    refine ⟨hpos, hle, hfirst, hlast, ⟨d, by rw [hmatched]; rfl, hd⟩, ?_⟩
    rw [TimeMention.find_matched hm, hwhole]
  · have hstart := start_of_matched hi
    cases hmatched : i.matched with
    | none => simpa only [hmatched] using hstart
    | some matched =>
      simp only [hmatched] at hstart ⊢
      rw [hstart, hwhole]

/-- Twelve at night between characters of two bytes, alone and behind another text. -/
theorem mention_is_evidence_night : ∃ m, TimeMention.find "é: 12\u00A0A.M.x".toList = some m ∧
    (m.time, m.span) = ({ hour := 0, minute := 0 }, 4, 12) ∧
    (TimeMention.find m.matched).map (fun n => (n.time, n.span)) =
      some ({ hour := 0, minute := 0 }, 0, 8) ∧
    (TimeMention.find ("Üb:".toList ++ "é: 12\u00A0A.M.x".toList)).map (fun n => (n.time, n.span)) =
      some ({ hour := 0, minute := 0 }, 8, 16) := by
  obtain ⟨hfound, hbehind, -⟩ := mention_is_evidence "é: 12\u00A0A.M.x".toList
  have hnight : (TimeMention.find "é: 12\u00A0A.M.x".toList).map (fun n => (n.time, n.span)) =
      some ({ hour := 0, minute := 0 }, 4, 12) := by decide
  obtain ⟨m, hm, hpair⟩ := Option.map_eq_some_iff.1 hnight
  obtain ⟨htime, hspan⟩ := Prod.mk.inj hpair
  obtain ⟨-, -, -, -, -, halone⟩ := hfound m hm
  have hlength : byteLength m.matched = 8 := by
    simp only [TimeMention.span, Prod.mk.injEq] at hspan
    omega
  refine ⟨m, hm, hpair, by rw [halone, htime, hlength], ?_⟩
  rw [hbehind _ (by simp), hm, Option.map_some, htime, hspan]
  decide

end Agenda.Command
