import Agenda.Draft.Wire
import Agenda.Proofs.Calendar.DateText
import Agenda.Text.Utf8
import Mathlib.Data.List.Basic
import Mathlib.Data.List.TakeWhile

/-!
What a text is as a time of day. It can be told by checks, one after the other: cut the text at its
first colon, ask for two bytes on both sides, ask for digits, read two numbers, check their ranges.
No check is exact alone: two bytes may be one character, a second colon may follow the first one, a
number may begin with a plus sign. CORRECT: together they ask for two digits, a colon and two
digits, no more and no less, and every text is a time, of another form, or out of range in hour or
minute.

    text      cut          two bytes    digits    numbers
    é:00      é | 00       both         no                   of another form
    +9:00     +9 | 00      both         no        9, 0       of another form
    09:0:     09 | 0:      both         no                   of another form
    24:60     24 | 60      both         yes       24, 60     hour out of range
-/

namespace Agenda.Calendar.TimeOfDay
open Agenda.Text

/-- A text is two digits, a colon and two digits, which denote an hour and a minute. -/
def Denotes (s : String) (hour minute : Nat) : Prop :=
  ∃ a b c d, s.toList = [a, b, ':', c, d] ∧ (∀ digit ∈ [a, b, c, d], digit.isDigit = true) ∧
    numeral [a, b] = hour ∧ numeral [c, d] = minute

/-! ### Check by check -/

/-- The text before and behind its first colon. -/
def cutAtColon? (cs : List Char) : Option (List Char × List Char) :=
  match cs.dropWhile (· != ':') with
  | [] => none
  | _ :: behind => some (cs.takeWhile (· != ':'), behind)

/-- What stands behind a plus sign, if there is one in front. -/
def unsigned : List Char → List Char
  | '+' :: cs => cs
  | cs => cs

/-- A number of 32 bits in at least one digit, with a plus sign in front of them or not. -/
def readWord? (cs : List Char) : Option Nat :=
  if unsigned cs ≠ [] ∧ (unsigned cs).all Char.isDigit = true ∧
      numeral (unsigned cs) < UInt32.size then
    some (numeral (unsigned cs))
  else none

/-- Reads `HH:MM` by its checks, in their order. -/
def ofTextByChecks (s : String) : Except TimeError TimeOfDay :=
  match cutAtColon? s.toList with
  | none => .error (.malformed s)
  | some (hour, minute) =>
    if byteLength hour ≠ 2 ∨ byteLength minute ≠ 2 then .error (.malformed s)
    else if !(hour ++ minute).all Char.isDigit then .error (.malformed s)
    else
      match readWord? hour, readWord? minute with
      | some hour, some minute => ofNumbers hour minute
      | _, _ => .error (.malformed s)

/-! ### The form -/

variable {s : String} {hour minute : Nat}

/-- A text denotes one hour and one minute. -/
theorem Denotes.unique {hour' minute' : Nat} (h : Denotes s hour minute)
    (h' : Denotes s hour' minute') : hour = hour' ∧ minute = minute' := by
  obtain ⟨a, b, c, d, hs, -, rfl, rfl⟩ := h
  obtain ⟨a', b', c', d', hs', -, rfl, rfl⟩ := h'
  obtain ⟨rfl, rfl, rfl, rfl⟩ : a = a' ∧ b = b' ∧ c = c' ∧ d = d' := by simpa [hs] using hs'
  exact ⟨rfl, rfl⟩

/-- In front of a text that denotes numbers these decide. -/
theorem Denotes.ofText_eq (h : Denotes s hour minute) : ofText s = ofNumbers hour minute := by
  obtain ⟨a, b, c, d, hs, hdigits, rfl, rfl⟩ := h
  have hall : [a, b, c, d].all Char.isDigit = true := List.all_eq_true.2 hdigits
  simp only [ofText, hs, hall, if_true]

/-- A text of another form is refused as it is. -/
theorem ofText_of_not_denotes (h : ∀ hour minute, ¬ Denotes s hour minute) :
    ofText s = .error (.malformed s) := by
  unfold ofText
  split
  · rename_i a b c d hs
    rw [if_neg]
    intro hall
    exact h _ _ ⟨a, b, c, d, hs, List.all_eq_true.1 hall, rfl, rfl⟩
  · rfl

/-- Every text denotes an hour and a minute, which decide, or is refused as it is. -/
theorem denotes_or_malformed (s : String) :
    (∃ hour minute, Denotes s hour minute ∧ ofText s = ofNumbers hour minute) ∨
    ((∀ hour minute, ¬ Denotes s hour minute) ∧ ofText s = .error (.malformed s)) := by
  by_cases h : ∃ hour minute, Denotes s hour minute
  · obtain ⟨hour, minute, hform⟩ := h
    exact Or.inl ⟨hour, minute, hform, hform.ofText_eq⟩
  · have hnone : ∀ hour minute, ¬ Denotes s hour minute := by simpa using h
    exact Or.inr ⟨hnone, ofText_of_not_denotes hnone⟩

/-- Two numbers are a time, or the hour is out of range, or only the minute is. -/
theorem ofNumbers_cases (hour minute : Nat) :
    (∃ t, ofNumbers hour minute = .ok t) ∨
    (ofNumbers hour minute = .error (.hourOutOfRange hour) ∧ 23 < hour) ∨
    (ofNumbers hour minute = .error (.minuteOutOfRange minute) ∧ hour ≤ 23 ∧ 59 < minute) := by
  unfold ofNumbers
  split
  · rename_i hhour
    split
    · exact Or.inl ⟨_, rfl⟩
    · rename_i hminute
      exact Or.inr (Or.inr ⟨rfl, by omega, by omega⟩)
  · rename_i hhour
    exact Or.inr (Or.inl ⟨rfl, by omega⟩)

theorem ofNumbers_ne_malformed (text : String) :
    ofNumbers hour minute ≠ .error (.malformed text) := by
  rcases ofNumbers_cases hour minute with ⟨t, h⟩ | ⟨h, -⟩ | ⟨h, -⟩ <;> simp [h]

/-- An error about the hour is about an hour that is written there and out of range. -/
theorem ofNumbers_eq_hourOutOfRange_iff {n : Nat} :
    ofNumbers hour minute = .error (.hourOutOfRange n) ↔ hour = n ∧ 23 < hour := by
  rcases ofNumbers_cases hour minute with ⟨t, h⟩ | ⟨h, hhour⟩ | ⟨h, hhour, -⟩
  · have hlt := (hour_minute_of_ofNumbers h).1 ▸ t.hour_lt
    simp only [h, reduceCtorEq, false_iff]
    omega
  · simp [h, hhour]
  · simp only [h, Except.error.injEq, reduceCtorEq, false_iff]
    omega

/-- An error about the minute is about one that is out of range behind an hour that is not. -/
theorem ofNumbers_eq_minuteOutOfRange_iff {n : Nat} :
    ofNumbers hour minute = .error (.minuteOutOfRange n) ↔
      minute = n ∧ hour ≤ 23 ∧ 59 < minute := by
  rcases ofNumbers_cases hour minute with ⟨t, h⟩ | ⟨h, hhour⟩ | ⟨h, hhour, hminute⟩
  · have hlt := (hour_minute_of_ofNumbers h).2 ▸ t.minute_lt
    simp only [h, reduceCtorEq, false_iff]
    omega
  · simp only [h, Except.error.injEq, reduceCtorEq, false_iff]
    omega
  · simp [h, hhour, hminute]

/-! ### The checks ask for the form -/

theorem cutAtColon?_eq_some_iff {cs before behind : List Char} :
    cutAtColon? cs = some (before, behind) ↔ cs = before ++ ':' :: behind ∧ ':' ∉ before := by
  have hcut : ∀ c, (c != ':') = false ↔ c = ':' := by simp
  constructor
  · intro h
    have hsplit := List.takeWhile_append_dropWhile (p := (· != ':')) (l := cs)
    have hhead := List.head?_dropWhile_not (· != ':') cs
    unfold cutAtColon? at h
    split at h
    · cases h
    · rename_i c rest hdrop
      simp only [Option.some.injEq, Prod.mk.injEq] at h
      obtain ⟨rfl, rfl⟩ := h
      rw [hdrop] at hsplit hhead
      obtain rfl : c = ':' := (hcut c).1 hhead
      refine ⟨hsplit.symm, fun hmem => ?_⟩
      have hne := List.mem_takeWhile_imp hmem
      simp at hne
  · rintro ⟨rfl, hno⟩
    have hall : ∀ c ∈ before, (c != ':') = true := by
      rintro c hc
      rw [bne_iff_ne]
      rintro rfl
      exact hno hc
    simp [cutAtColon?, List.takeWhile_append_of_pos hall, List.dropWhile_append_of_pos hall]

/-- A digit takes one byte. -/
theorem utf8Size_of_isDigit {c : Char} (h : c.isDigit = true) : c.utf8Size = 1 := by
  have hrange := Char.isDigit_iff_toNat.1 h
  have hnine : ('9' : Char).toNat = 57 := rfl
  rw [Char.utf8Size_eq_one_iff, UInt32.le_iff_toNat_le]
  exact Nat.le_trans hrange.2 (by decide)

theorem byteLength_of_isDigit {ds : List Char} (h : ∀ c ∈ ds, c.isDigit = true) :
    byteLength ds = ds.length := by
  induction ds with
  | nil => rfl
  | cons d ds ih =>
    rw [byteLength, utf8Size_of_isDigit (h d List.mem_cons_self),
      ih fun c hc => h c (List.mem_cons_of_mem d hc), List.length_cons, Nat.add_comm]

/-- Two bytes that are digits are two digits. -/
theorem byteLength_eq_two_iff {ds : List Char} (h : ∀ c ∈ ds, c.isDigit = true) :
    byteLength ds = 2 ↔ ∃ a b, ds = [a, b] := by
  rw [byteLength_of_isDigit h, List.length_eq_two]

/-- Two digits are read as their number; neither is a sign. -/
theorem readWord?_digits {a b : Char} (ha : a.isDigit = true) (hb : b.isDigit = true) :
    readWord? [a, b] = some (numeral [a, b]) := by
  have hsign : a ≠ '+' := (not_blank_of_isDigit ha).2.2
  have hlt : numeral [a, b] < UInt32.size := by
    have hnine : ('9' : Char).toNat = 57 := rfl
    have ha9 := (Char.isDigit_iff_toNat.1 ha).2
    have hb9 := (Char.isDigit_iff_toNat.1 hb).2
    rw [numeral_pair, UInt32.size]
    omega
  have hunsigned : unsigned [a, b] = [a, b] := by
    unfold unsigned
    split
    · rename_i heq
      exact absurd (List.cons.inj heq).1 hsign
    · rfl
  rw [readWord?, hunsigned, if_pos ⟨List.cons_ne_nil a [b], by simp [ha, hb], hlt⟩]

/-- The checks pass on a text of the form, up to its numbers. -/
theorem Denotes.ofTextByChecks_eq (h : Denotes s hour minute) :
    ofTextByChecks s = ofNumbers hour minute := by
  obtain ⟨a, b, c, d, hs, hdigits, rfl, rfl⟩ := h
  simp only [List.forall_mem_cons, List.not_mem_nil, false_implies, implies_true, and_true]
    at hdigits
  obtain ⟨ha, hb, hc, hd⟩ := hdigits
  have hcolon : ∀ c : Char, c.isDigit = true → ':' ≠ c := by
    rintro c hc rfl
    exact absurd hc (by decide)
  have hcut : cutAtColon? s.toList = some ([a, b], [c, d]) := by
    rw [cutAtColon?_eq_some_iff]
    exact ⟨hs, by simp [hcolon a ha, hcolon b hb]⟩
  have hhour : byteLength [a, b] = 2 := by
    simp [byteLength, utf8Size_of_isDigit ha, utf8Size_of_isDigit hb]
  have hminute : byteLength [c, d] = 2 := by
    simp [byteLength, utf8Size_of_isDigit hc, utf8Size_of_isDigit hd]
  simp [ofTextByChecks, hcut, hhour, hminute, ha, hb, hc, hd, readWord?_digits]

/-- The checks ask for two digits, a colon and two digits, and for nothing else. -/
theorem ofTextByChecks_eq (s : String) : ofTextByChecks s = ofText s := by
  rcases denotes_or_malformed s with ⟨hour, minute, hform, hread⟩ | ⟨hnone, hread⟩
  · rw [hform.ofTextByChecks_eq, hread]
  · rw [hread]
    unfold ofTextByChecks
    split
    · rfl
    · rename_i before behind hcut
      obtain ⟨hs, -⟩ := cutAtColon?_eq_some_iff.1 hcut
      split
      · rfl
      · rename_i hbytes
        split
        · rfl
        · -- the text has the form, if both parts are two bytes and all of them digits
          rename_i hall
          exfalso
          obtain ⟨hhour, hminute⟩ := not_or.1 hbytes
          have hdigits : ∀ c ∈ before ++ behind, c.isDigit = true := by
            simpa [or_imp, forall_and] using hall
          obtain ⟨a, b, rfl⟩ := (byteLength_eq_two_iff fun c hc =>
            hdigits c (List.mem_append_left _ hc)).1 (Decidable.not_not.1 hhour)
          obtain ⟨c, d, rfl⟩ := (byteLength_eq_two_iff fun c hc =>
            hdigits c (List.mem_append_right _ hc)).1 (Decidable.not_not.1 hminute)
          exact hnone _ _ ⟨a, b, c, d, hs, hdigits, rfl, rfl⟩

/-! ### The verdict -/

/-- A time that is read is the one that its text denotes. -/
theorem denotes_of_ofText {t : TimeOfDay} (h : ofText s = .ok t) : Denotes s t.hour t.minute := by
  rcases denotes_or_malformed s with ⟨hour, minute, hform, hread⟩ | ⟨-, hread⟩
  · rw [hread] at h
    obtain ⟨rfl, rfl⟩ := hour_minute_of_ofNumbers h
    exact hform
  · rw [hread] at h
    cases h

/-- A text of another form is what the error carries. -/
theorem ofText_eq_malformed_iff {text : String} :
    ofText s = .error (.malformed text) ↔ text = s ∧ ∀ hour minute, ¬ Denotes s hour minute := by
  rcases denotes_or_malformed s with ⟨hour, minute, hform, hread⟩ | ⟨hnone, hread⟩
  · simp only [hread, ofNumbers_ne_malformed, false_iff]
    rintro ⟨-, hnone⟩
    exact hnone hour minute hform
  · rw [hread, Except.error.injEq, TimeError.malformed.injEq]
    exact ⟨fun h => ⟨h.symm, hnone⟩, fun h => h.1.symm⟩

theorem ofText_eq_hourOutOfRange_iff {n : Nat} :
    ofText s = .error (.hourOutOfRange n) ↔ ∃ minute, Denotes s n minute ∧ 23 < n := by
  rcases denotes_or_malformed s with ⟨hour, minute, hform, hread⟩ | ⟨hnone, hread⟩
  · rw [hread, ofNumbers_eq_hourOutOfRange_iff]
    constructor
    · rintro ⟨rfl, hhour⟩
      exact ⟨minute, hform, hhour⟩
    · rintro ⟨_, hform', hhour⟩
      obtain ⟨rfl, rfl⟩ := hform.unique hform'
      exact ⟨rfl, hhour⟩
  · simp [hread, hnone]

theorem ofText_eq_minuteOutOfRange_iff {n : Nat} :
    ofText s = .error (.minuteOutOfRange n) ↔ ∃ hour, Denotes s hour n ∧ hour ≤ 23 ∧ 59 < n := by
  rcases denotes_or_malformed s with ⟨hour, minute, hform, hread⟩ | ⟨hnone, hread⟩
  · rw [hread, ofNumbers_eq_minuteOutOfRange_iff]
    constructor
    · rintro ⟨rfl, hhour, hminute⟩
      exact ⟨hour, hform, hhour, hminute⟩
    · rintro ⟨_, hform', hhour, hminute⟩
      obtain ⟨rfl, rfl⟩ := hform.unique hform'
      exact ⟨rfl, hhour, hminute⟩
  · simp [hread, hnone]

/--
CORRECT: the checks take the texts that are written for a time, and no others. They refuse a text of
another form as it is, one of the form by its hour if that is past 23, and otherwise by its minute
if that is past 59. Reading a time from a JSON string gives the same verdict in the same words.
-/
theorem ofText_tells_texts_apart (s : String) :
    ofTextByChecks s = ofText s ∧
    (∀ t, ofText s = .ok t ↔ s = t.text) ∧
    (∀ t, ofText s = .ok t → Denotes s t.hour t.minute ∧ t.hour ≤ 23 ∧ t.minute ≤ 59) ∧
    (∀ text, ofText s = .error (.malformed text) ↔
      text = s ∧ ∀ hour minute, ¬ Denotes s hour minute) ∧
    (∀ hour, ofText s = .error (.hourOutOfRange hour) ↔
      ∃ minute, Denotes s hour minute ∧ 23 < hour) ∧
    (∀ minute, ofText s = .error (.minuteOutOfRange minute) ↔
      ∃ hour, Denotes s hour minute ∧ hour ≤ 23 ∧ 59 < minute) ∧
    Draft.readTime (Json.string s).head = (ofText s).mapError Draft.DecodeError.badTime ∧
    (Draft.readTime (Json.string s).head).mapError Draft.DecodeError.message =
      (ofText s).mapError TimeError.message := by
  have hstring : Draft.readTime (Json.string s).head =
      (ofText s).mapError Draft.DecodeError.badTime := rfl
  have hwords : (Draft.readTime (Json.string s).head).mapError Draft.DecodeError.message =
      (ofText s).mapError TimeError.message := by
    rw [hstring]
    cases ofText s <;> rfl
  have hrange : ∀ t, ofText s = .ok t →
      Denotes s t.hour t.minute ∧ t.hour ≤ 23 ∧ t.minute ≤ 59 := fun t h =>
    ⟨denotes_of_ofText h, Nat.le_of_lt_succ t.hour_lt, Nat.le_of_lt_succ t.minute_lt⟩
  exact ⟨ofTextByChecks_eq s, ofText_eq_ok_iff s, hrange, fun _ => ofText_eq_malformed_iff,
    fun _ => ofText_eq_hourOutOfRange_iff, fun _ => ofText_eq_minuteOutOfRange_iff, hstring, hwords⟩

example : ofText "+9:00" = .error (.malformed "+9:00") ∧
    ofText "é:00" = .error (.malformed "é:00") ∧
    ofText "09:0:" = .error (.malformed "09:0:") ∧
    ofText "24:60" = .error (.hourOutOfRange 24) ∧
    ofText "23:60" = .error (.minuteOutOfRange 60) := by decide

end Agenda.Calendar.TimeOfDay
