import Agenda.Proofs.Command.NumberRuns

/-!
What a run offers as a clock time. `Reads` says part by part what is taken from the front of a text:
two digits if there are two, minutes if they follow at once, all blanks, and a marker if there is
one. Every part is as long as it can be, so a text that begins with a digit is read in exactly one
way, and a run with a digit makes exactly one offer. CORRECT: a run has a mention iff its offer is
acceptable, and then the mention has the time and the characters of the offer.

    text          hour    minutes    blanks    marker    after
    9:305 pm      9       :30                            5 pm
    12 A.M.x      12                 1         A.M.      x
    3 amaze       3                  1                   amaze
-/

namespace Agenda.Command
open Agenda.Calendar Agenda.Text

/-! ### Markers -/

/-- The marker written without dots, in lower case. -/
def Meridiem.plain : Meridiem → List Char
  | .am => "am".toList
  | .pm => "pm".toList

/-- The marker written with dots, in lower case. -/
def Meridiem.dotted : Meridiem → List Char
  | .am => "a.m.".toList
  | .pm => "p.m.".toList

/-- Letters in some ASCII case spell a marker in front of a text; without dots they end a word. -/
inductive IsMarker (letters after : List Char) (half : Meridiem) : Prop where
  | dotted (spelled : letters.map Char.toLower = half.dotted)
  | plain (spelled : letters.map Char.toLower = half.plain)
      (ends : ∀ c, after.head? = some c → isWordChar c = false)

theorem endsWord_iff (cs : List Char) :
    endsWord cs = true ↔ ∀ c, cs.head? = some c → isWordChar c = false := by
  cases cs with
  | nil => exact iff_of_true rfl fun _ h => nomatch h
  | cons c cs =>
    rw [endsWord, Bool.not_eq_true', List.head?_cons]
    constructor
    · rintro h d ⟨⟩
      exact h
    · intro h
      exact h c rfl

/-- Other letters than `s` and `k` have no spelling beyond ASCII. -/
theorem toLower_of_fold {c l : Char} (h : fold c = l) (hs : l ≠ 's') (hk : l ≠ 'k') :
    c.toLower = l := by
  unfold fold at h
  split at h
  · exact absurd h.symm hs
  · split at h
    · exact absurd h.symm hk
    · exact h

theorem Meridiem.no_s_or_k (half : Meridiem) :
    ∀ l ∈ half.plain ++ half.dotted, l ≠ 's' ∧ l ≠ 'k' := by
  have hall : (half.plain ++ half.dotted).all (fun l => l != 's' && l != 'k') = true := by
    cases half <;> decide
  simpa only [List.all_eq_true, Bool.and_eq_true, bne_iff_ne] using hall

/-- A text that begins with a word begins with letters that spell it. -/
theorem map_toLower_take_of_beginsWith {word cs : List Char} (hword : ∀ l ∈ word, l ≠ 's' ∧ l ≠ 'k')
    (h : beginsWith word cs = true) :
    (cs.take word.length).map Char.toLower = word := by
  induction word generalizing cs with
  | nil => rfl
  | cons l word ih =>
    cases cs with
    | nil => cases h
    | cons c cs =>
      rw [beginsWith, Bool.and_eq_true, beq_iff_eq] at h
      obtain ⟨hs, hk⟩ := hword l List.mem_cons_self
      rw [List.length_cons, List.take_succ_cons, List.map_cons, toLower_of_fold h.1 hs hk,
        ih (fun l hl => hword l (List.mem_cons_of_mem _ hl)) h.2]

/-- What is found as a marker at the front of a text is one. -/
theorem isMarker_of_marker? {cs : List Char} {half : Meridiem} {n : Nat}
    (h : marker? cs = some (half, n)) : IsMarker (cs.take n) (cs.drop n) half := by
  have hdotted : ∀ half : Meridiem, beginsWith half.dotted cs = true →
      IsMarker (cs.take 4) (cs.drop 4) half := by
    intro half hb
    have hletters := map_toLower_take_of_beginsWith
      (fun l hl => half.no_s_or_k l (List.mem_append_right _ hl)) hb
    cases half <;> exact .dotted hletters
  have hplain : ∀ half : Meridiem, beginsWith half.plain cs = true →
      endsWord (cs.drop 2) = true → IsMarker (cs.take 2) (cs.drop 2) half := by
    intro half hb hends
    have hletters := map_toLower_take_of_beginsWith
      (fun l hl => half.no_s_or_k l (List.mem_append_left _ hl)) hb
    cases half <;> exact .plain hletters ((endsWord_iff _).1 hends)
  unfold marker? at h
  split at h
  · cases h
    exact hdotted .am ‹_›
  · split at h
    · cases h
      exact hdotted .pm ‹_›
    · split at h
      · rename_i hb
        cases h
        exact hplain .am (Bool.and_eq_true_iff.1 hb).1 (Bool.and_eq_true_iff.1 hb).2
      · split at h
        · rename_i hb
          cases h
          exact hplain .pm (Bool.and_eq_true_iff.1 hb).1 (Bool.and_eq_true_iff.1 hb).2
        · cases h

/-- A marker at the front of a text is found. -/
theorem marker?_of_isMarker {letters after : List Char} {half : Meridiem}
    (h : IsMarker letters after half) :
    marker? (letters ++ after) = some (half, letters.length) := by
  have hfold : ∀ word, word ∈ half.spellings → letters.map Char.toLower = word →
      letters.map fold = word := fun word hword hletters =>
    (reads_of_map_toLower (half.all_isPlain word hword) hletters).1
  cases h with
  | dotted spelled =>
    have hletters := hfold half.dotted (by cases half <;> decide) spelled
    have hlen : letters.length = 4 := by
      rw [← List.length_map (f := fold), hletters]
      cases half <;> rfl
    simp only [marker?, beginsWith_eq, List.map_append, hletters, hlen]
    cases half <;> rfl
  | plain spelled ends =>
    have hletters := hfold half.plain (by cases half <;> decide) spelled
    have hlen : letters.length = 2 := by
      rw [← List.length_map (f := fold), hletters]
      cases half <;> rfl
    have hends : endsWord ((letters ++ after).drop 2) = true := by
      rw [← hlen, List.drop_left, endsWord_iff]
      exact ends
    simp only [marker?, beginsWith_eq, List.map_append, hletters, hlen, hends]
    cases half <;> rfl

/-! ### Offers -/

/-- What is taken from the front of a text as a clock time, part by part. -/
structure Offer where
  hour : List Char
  minutes : Option (Char × Char)
  blanks : List Char
  marker : Option (Meridiem × List Char)
  after : List Char

namespace Offer

/-- The characters of minutes, if there are any. -/
def minuteChars : Option (Char × Char) → List Char
  | some (a, b) => [':', a, b]
  | none => []

/-- The characters of a marker, if there is one. -/
def markerChars : Option (Meridiem × List Char) → List Char
  | some (_, letters) => letters
  | none => []

/-- The text behind the blanks. -/
def afterBlanks (o : Offer) : List Char := markerChars o.marker ++ o.after

/-- The text behind the minutes. -/
def afterMinutes (o : Offer) : List Char := o.blanks ++ o.afterBlanks

/-- The text behind the hour. -/
def afterHour (o : Offer) : List Char := minuteChars o.minutes ++ o.afterMinutes

/-- All characters that are taken. -/
def chars (o : Offer) : List Char :=
  o.hour ++ minuteChars o.minutes ++ o.blanks ++ markerChars o.marker

/-- What the front of a text is read as: every part that stands there, as long as it can be. -/
structure Reads (o : Offer) (text : List Char) : Prop where
  parts : text = o.hour ++ o.afterHour
  hour_digits : ∀ c ∈ o.hour, c.isDigit = true
  hour_length : o.hour.length = 2 ∨
    o.hour.length = 1 ∧ ∀ c, o.afterHour.head? = some c → c.isDigit = false
  minutes_digits : ∀ a b, o.minutes = some (a, b) → a.isDigit = true ∧ b.isDigit = true
  minutes_none : o.minutes = none →
    ∀ a b cs, o.afterMinutes = ':' :: a :: b :: cs → ¬ (a.isDigit = true ∧ b.isDigit = true)
  blanks_isBlank : ∀ c ∈ o.blanks, isBlank c = true
  blanks_all : ∀ c, o.afterBlanks.head? = some c → isBlank c = false
  marker_some : ∀ half letters, o.marker = some (half, letters) → IsMarker letters o.after half
  marker_none : o.marker = none →
    ∀ half letters after, o.after = letters ++ after → ¬ IsMarker letters after half

/-- The hour on the 24-hour clock: twelve hours on in the afternoon, and 0 for twelve at night. -/
def hourMeant (o : Offer) : Nat :=
  match o.marker with
  | some (.pm, _) =>
    if 1 ≤ numeral o.hour ∧ numeral o.hour ≤ 11 then numeral o.hour + 12 else numeral o.hour
  | some (.am, _) => if numeral o.hour = 12 then 0 else numeral o.hour
  | none => numeral o.hour

/-- The minute; without minutes the full hour. -/
def minuteMeant (o : Offer) : Nat :=
  match o.minutes with
  | some (a, b) => numeral [a, b]
  | none => 0

/-- An offer is a time of day. -/
def Acceptable (o : Offer) : Prop := o.hourMeant ≤ 23 ∧ o.minuteMeant ≤ 59

/-- A mention has the time, the characters and the bytes of an offer that is made behind a text. -/
structure IsMention (o : Offer) (lead : List Char) (m : TimeMention) : Prop where
  hour : m.time.hour = o.hourMeant
  minute : m.time.minute = o.minuteMeant
  before : m.before = lead
  matched : m.matched = o.chars
  after : m.after = o.after
  span : m.span = (byteLength lead, byteLength (lead ++ o.chars))

/-! ### Reading the parts -/

/-- One or two digits stand at the front of a text that begins with a digit. -/
theorem exists_hour {d : Char} (hd : d.isDigit = true) (cs : List Char) :
    ∃ hour rest, d :: cs = hour ++ rest ∧ (∀ c ∈ hour, c.isDigit = true) ∧
      (hour.length = 2 ∨ hour.length = 1 ∧ ∀ c, rest.head? = some c → c.isDigit = false) := by
  cases cs with
  | nil => exact ⟨[d], [], rfl, by simpa using hd, Or.inr ⟨rfl, by simp⟩⟩
  | cons c cs =>
    cases hc : c.isDigit with
    | true => exact ⟨[d, c], cs, rfl, by simp [hd, hc], Or.inl rfl⟩
    | false => exact ⟨[d], c :: cs, rfl, by simpa using hd, Or.inr ⟨rfl, by simpa using hc⟩⟩

/-- Minutes stand at the front of a text, or they do not. -/
theorem exists_minutes (cs : List Char) :
    ∃ minutes rest, cs = minuteChars minutes ++ rest ∧
      (∀ a b, minutes = some (a, b) → a.isDigit = true ∧ b.isDigit = true) ∧
      (minutes = none → ∀ a b tail, rest = ':' :: a :: b :: tail →
        ¬ (a.isDigit = true ∧ b.isDigit = true)) := by
  by_cases h : ∃ a b tail, cs = ':' :: a :: b :: tail ∧ a.isDigit = true ∧ b.isDigit = true
  · obtain ⟨a, b, tail, rfl, hdigits⟩ := h
    refine ⟨some (a, b), tail, rfl, ?_, fun hnone => nomatch hnone⟩
    rintro a b ⟨⟩
    exact hdigits
  · refine ⟨none, cs, rfl, fun _ _ hsome => (nomatch hsome), ?_⟩
    rintro - a b tail rfl hdigits
    exact h ⟨a, b, tail, rfl, hdigits⟩

/-- A marker stands at the front of a text, or it does not. -/
theorem exists_marker (cs : List Char) :
    ∃ marker rest, cs = markerChars marker ++ rest ∧
      (∀ half letters, marker = some (half, letters) → IsMarker letters rest half) ∧
      (marker = none → ∀ half letters tail, rest = letters ++ tail →
        ¬ IsMarker letters tail half) := by
  by_cases h : ∃ half letters tail, cs = letters ++ tail ∧ IsMarker letters tail half
  · obtain ⟨half, letters, tail, rfl, hmarker⟩ := h
    refine ⟨some (half, letters), tail, rfl, ?_, fun hnone => nomatch hnone⟩
    rintro half letters ⟨⟩
    exact hmarker
  · refine ⟨none, cs, rfl, fun _ _ hsome => (nomatch hsome), ?_⟩
    rintro - half letters tail rfl hmarker
    exact h ⟨half, letters, tail, rfl, hmarker⟩

/-- Every text that begins with a digit can be read. -/
theorem exists_reads {d : Char} (hd : d.isDigit = true) (cs : List Char) :
    ∃ o : Offer, o.Reads (d :: cs) := by
  obtain ⟨hour, rest, hhour, hdigits, hlength⟩ := exists_hour hd cs
  obtain ⟨minutes, rest', hminutes, hsome, hnone⟩ := exists_minutes rest
  have hblanks : rest'.takeWhile isBlank ++ rest'.dropWhile isBlank = rest' :=
    List.takeWhile_append_dropWhile
  obtain ⟨marker, after, hmarker, hmarked, hunmarked⟩ := exists_marker (rest'.dropWhile isBlank)
  let o : Offer := ⟨hour, minutes, rest'.takeWhile isBlank, marker, after⟩
  have hafterBlanks : o.afterBlanks = rest'.dropWhile isBlank := hmarker.symm
  have hafterMinutes : o.afterMinutes = rest' := by
    rw [afterMinutes, hafterBlanks]
    exact hblanks
  have hafterHour : o.afterHour = rest := by
    rw [afterHour, hafterMinutes]
    exact hminutes.symm
  refine ⟨o, ?_, hdigits, ?_, hsome, ?_, fun c hc => List.mem_takeWhile_imp hc, ?_, hmarked,
    hunmarked⟩
  · rw [hafterHour, hhour]
  · rw [hafterHour]
    exact hlength
  · rw [hafterMinutes]
    exact hnone
  · rw [hafterBlanks]
    intro c hc
    exact not_of_head?_dropWhile hc

variable {o : Offer} {text : List Char}

theorem Reads.takeDigits_eq (h : o.Reads text) : takeDigits 2 text = (o.hour, o.afterHour) := by
  rw [h.parts]
  rcases h.hour_length with hlen | ⟨hlen, hend⟩
  · exact takeDigits_run h.hour_digits (Nat.le_of_eq hlen) (Or.inl hlen)
  · exact takeDigits_run h.hour_digits (by omega) (Or.inr hend)

/-- Where no minutes stand none are taken. -/
theorem takeMinutes_eq_nil {cs : List Char}
    (h : ∀ a b tail, cs = ':' :: a :: b :: tail → ¬ (a.isDigit = true ∧ b.isDigit = true)) :
    takeMinutes cs = ([], cs) := by
  unfold takeMinutes
  split
  · rename_i a b tail
    rw [if_neg]
    simpa using h a b tail rfl
  · rfl

theorem Reads.takeMinutes_eq (h : o.Reads text) :
    takeMinutes o.afterHour = (minuteChars o.minutes, o.afterMinutes) := by
  rw [afterHour]
  cases hm : o.minutes with
  | some p =>
    obtain ⟨ha, hb⟩ := h.minutes_digits p.1 p.2 hm
    simp [minuteChars, takeMinutes, ha, hb]
  | none =>
    rw [minuteChars, List.nil_append]
    exact takeMinutes_eq_nil (h.minutes_none hm)

theorem Reads.span_blanks (h : o.Reads text) :
    o.afterMinutes.takeWhile isBlank = o.blanks ∧
      o.afterMinutes.dropWhile isBlank = o.afterBlanks :=
  span_append h.blanks_isBlank h.blanks_all

theorem Reads.marker?_eq (h : o.Reads text) :
    marker? o.afterBlanks = o.marker.map fun m => (m.1, m.2.length) := by
  rw [afterBlanks]
  cases hm : o.marker with
  | some m => exact marker?_of_isMarker (h.marker_some m.1 m.2 hm)
  | none =>
    rw [markerChars, List.nil_append, Option.map_none, Option.eq_none_iff_forall_ne_some]
    rintro ⟨half, n⟩ hfound
    exact h.marker_none hm half _ _ (List.take_append_drop n o.after).symm
      (isMarker_of_marker? hfound)

/-! ### One reading -/

theorem minuteChars_injective {m n : Option (Char × Char)} (h : minuteChars m = minuteChars n) :
    m = n := by
  rcases m with _ | ⟨a, b⟩ <;> rcases n with _ | ⟨c, d⟩ <;> simp_all [minuteChars]

/-- A marker is told by its half of the day, its length and the text that it is taken from. -/
theorem marker_ext {m n : Option (Meridiem × List Char)} {cs ds : List Char}
    (hkind : (m.map fun m => (m.1, m.2.length)) = n.map fun m => (m.1, m.2.length))
    (h : markerChars m ++ cs = markerChars n ++ ds) : m = n ∧ cs = ds := by
  rcases m with _ | ⟨half, letters⟩ <;> rcases n with _ | ⟨half', letters'⟩
  · exact ⟨rfl, h⟩
  · cases hkind
  · cases hkind
  · simp only [Option.map_some, Option.some.injEq, Prod.mk.injEq] at hkind
    obtain ⟨rfl, hlen⟩ := hkind
    obtain ⟨rfl, rfl⟩ := List.append_inj h hlen
    exact ⟨rfl, rfl⟩

/-- A text is read in one way only. -/
theorem Reads.unique {p : Offer} (h : o.Reads text) (hp : p.Reads text) : o = p := by
  -- part by part: equal texts in front of a part leave equal texts behind it
  have hhour := h.takeDigits_eq
  rw [hp.takeDigits_eq, Prod.mk.injEq] at hhour
  have hminutes := h.takeMinutes_eq
  rw [← hhour.2, hp.takeMinutes_eq, Prod.mk.injEq] at hminutes
  have hblanks := h.span_blanks
  rw [← hminutes.2, hp.span_blanks.1, hp.span_blanks.2] at hblanks
  have hkind := h.marker?_eq
  rw [← hblanks.2, hp.marker?_eq] at hkind
  obtain ⟨hmarker, hafter⟩ := marker_ext hkind hblanks.2
  have hpairs := minuteChars_injective hminutes.1
  cases o
  cases p
  simp_all

/-! ### The candidate of a reading -/

/-- The candidate at the front of a text is what the text is read as. -/
theorem Reads.ofText_eq (h : o.Reads text) : Candidate.ofText text =
    { hour := numeral o.hour
      minute := o.minuteMeant
      meridiem := o.marker.map (·.1)
      matched := o.chars
      after := o.after } := by
  have hminute : numeral ((minuteChars o.minutes).drop 1) = o.minuteMeant := by
    unfold minuteMeant
    cases o.minutes <;> rfl
  simp only [Candidate.ofText, h.takeDigits_eq, h.takeMinutes_eq, h.span_blanks, h.marker?_eq,
    hminute, chars]
  rw [afterBlanks]
  cases o.marker with
  | none => simp [markerChars]
  | some m => simp [markerChars]

/-- The candidate has the hour that is meant. -/
theorem hourOfDay_eq_hourMeant (o : Offer) :
    hourOfDay (numeral o.hour) (o.marker.map (·.1)) = o.hourMeant := by
  unfold hourMeant
  rcases o.marker with _ | ⟨_ | _, letters⟩ <;> rfl

theorem ofNumbers_toOption_eq_some_iff {hour minute : Nat} {t : TimeOfDay} :
    (TimeOfDay.ofNumbers hour minute).toOption = some t ↔ t.hour = hour ∧ t.minute = minute := by
  have hhour := t.hour_lt
  have hminute := t.minute_lt
  constructor
  · unfold TimeOfDay.ofNumbers
    intro h
    split at h
    · split at h
      · cases h
        exact ⟨rfl, rfl⟩
      · cases h
    · cases h
  · rintro ⟨rfl, rfl⟩
    rw [TimeOfDay.ofNumbers_hour_minute]
    rfl

/-- A mention is made by acceptable offers only. -/
theorem IsMention.acceptable {lead : List Char} {m : TimeMention} (h : o.IsMention lead m) :
    o.Acceptable :=
  ⟨h.hour ▸ Nat.le_of_lt_succ m.time.hour_lt, h.minute ▸ Nat.le_of_lt_succ m.time.minute_lt⟩

/-- Every acceptable offer makes a mention. -/
theorem Acceptable.exists_isMention (h : o.Acceptable) (lead : List Char) :
    ∃ m, o.IsMention lead m := by
  refine ⟨{ time := { hour := o.hourMeant, minute := o.minuteMeant,
                      hour_lt := Nat.lt_succ_of_le h.1, minute_lt := Nat.lt_succ_of_le h.2 }
            before := lead, matched := o.chars, after := o.after }, rfl, rfl, rfl, rfl, rfl, ?_⟩
  rw [TimeMention.span, byteLength_append]

/-- The mention at the front of a text, behind another text, is the one that the reading makes. -/
theorem Reads.map_behind_eq_some_iff (h : o.Reads text) {lead : List Char} {m : TimeMention} :
    (TimeMention.atFront? text).map (.behind lead) = some m ↔ o.IsMention lead m := by
  rw [TimeMention.atFront?, Candidate.time?, h.ofText_eq, Option.map_map, Option.map_eq_some_iff]
  simp only [hourOfDay_eq_hourMeant, ofNumbers_toOption_eq_some_iff]
  constructor
  · rintro ⟨t, ⟨hhour, hminute⟩, rfl⟩
    refine ⟨hhour, hminute, List.append_nil lead, rfl, rfl, ?_⟩
    simp [TimeMention.span, TimeMention.behind, byteLength_append]
  · rintro ⟨hhour, hminute, rfl, hmatched, hafter, -⟩
    refine ⟨m.time, ⟨hhour, hminute⟩, ?_⟩
    simp [TimeMention.behind, ← hmatched, ← hafter]

end Offer

/-! ### The offer of a run -/

namespace Run

/-- What a run with a digit offers, at its first digit. -/
def Offers (r : Run) (o : Offer) : Prop := r.hasDigit = true ∧ o.Reads r.fromDigit

/-- A run with a digit makes exactly one offer. -/
theorem existsUnique_offers {r : Run} (h : r.hasDigit = true) : ∃! o, r.Offers o := by
  obtain ⟨front, d, more, -, -, hd, -, hfrom⟩ := exists_of_hasDigit h
  obtain ⟨o, ho⟩ := Offer.exists_reads hd (more ++ r.after)
  rw [← hfrom] at ho
  exact ⟨o, ⟨h, ho⟩, fun p hp => hp.2.unique ho⟩

theorem mention?_eq_some_iff_of_offers {r : Run} {o : Offer} (h : r.Offers o) {m : TimeMention} :
    r.mention? = some m ↔ o.IsMention r.upToDigit m := by
  rw [mention?, if_pos h.1, h.2.map_behind_eq_some_iff]

/-- CORRECT: the mention of a run is the one that its offer makes. -/
theorem mention?_eq_some_iff {r : Run} {m : TimeMention} :
    r.mention? = some m ↔ ∃ o, r.Offers o ∧ o.IsMention r.upToDigit m := by
  constructor
  · intro h
    have hdigit : r.hasDigit = true := by
      by_contra hno
      rw [mention?, if_neg hno] at h
      cases h
    obtain ⟨o, ho, -⟩ := existsUnique_offers hdigit
    exact ⟨o, ho, (mention?_eq_some_iff_of_offers ho).1 h⟩
  · rintro ⟨o, ho, hm⟩
    exact (mention?_eq_some_iff_of_offers ho).2 hm

/-- CORRECT: a run has no mention iff it has no acceptable offer. -/
theorem mention?_eq_none_iff {r : Run} :
    r.mention? = none ↔ ∀ o, r.Offers o → ¬ o.Acceptable := by
  constructor
  · intro h o ho haccept
    obtain ⟨m, hm⟩ := haccept.exists_isMention r.upToDigit
    rw [(mention?_eq_some_iff_of_offers ho).2 hm] at h
    cases h
  · intro h
    rw [Option.eq_none_iff_forall_ne_some]
    intro m hm
    obtain ⟨o, ho, hmention⟩ := mention?_eq_some_iff.1 hm
    exact h o ho hmention.acceptable

end Run

end Agenda.Command
