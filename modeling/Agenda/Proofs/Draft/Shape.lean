import Agenda.Proofs.Draft.RoundTrip

/-!
The shape of a draft, told without the reader: which values hold six texts, and which six texts are
a draft. CORRECT has two sides. The reader takes neither more nor less than that, and what it gives
has these contents; and for a text it does not matter in which order the members stand, only that
none of the six stands there twice.

      title, color, description    any string, but the title is not blank
      date                         what reads as a date
      startTime, endTime           HH:MM on a 24-hour clock, the end one hour after the start
-/

namespace Agenda.Draft
open Agenda.Calendar Agenda.Json Agenda.Text

/-! ### The documented shape -/

/-- A value holds six texts: an object under the six keys, an array in their order. -/
def HasTexts (texts : Field → String) : Json → Prop
  | .object members =>
    ∀ field : Field, (Json.object members).get? field.key = some (.string (texts field))
  | .array items => items = Field.all.map fun field => .string (texts field)
  | .scalar _ => False

/-- A text is a time of day in its strict form: two digits, a colon and two digits. -/
structure SpellsTime (text : String) (hour minute : Nat) : Prop where
  hour_lt : hour < 24
  minute_lt : minute < 60
  digits : ∃ a b c d : Char, text.toList = [a, b, ':', c, d] ∧
    (∀ digit ∈ [a, b, c, d], digit.isDigit = true) ∧
    numeral [a, b] = hour ∧ numeral [c, d] = minute

/-- Six texts are a draft. -/
structure Acceptable (texts : Field → String) : Prop where
  title : isBlankText (texts .title) = false
  date : ∃ date, Date.ofText (texts .date) = .ok date
  slot : ∃ hour minute, SpellsTime (texts .start) hour minute ∧
    SpellsTime (texts .finish) ((hour + 1) % 24) minute

/-- A draft has the contents of six texts; the two times are written with the very same texts. -/
structure Contents (d : Draft) (texts : Field → String) : Prop where
  title : d.title = texts .title
  date : Date.ofText (texts .date) = .ok d.date
  start : d.toJson.get? Field.start.key = some (.string (texts .start))
  finish : d.toJson.get? Field.finish.key = some (.string (texts .finish))
  color : d.color = texts .color
  note : d.note = texts .note

/-! ### Times and texts -/

/-- A time has one strict form only. -/
theorem spellsTime_iff (t : TimeOfDay) (text : String) :
    SpellsTime text t.hour t.minute ↔ text = t.text := by
  have hh := t.hour_lt
  have hm := t.minute_lt
  constructor
  · rintro ⟨-, -, a, b, c, d, htext, hdigits, hhour, hminute⟩
    have hfirst : twoDigits t.hour = [a, b] := by
      rw [← hhour]
      exact TimeOfDay.twoDigits_numeral (hdigits a (by simp)) (hdigits b (by simp))
    have hlast : twoDigits t.minute = [c, d] := by
      rw [← hminute]
      exact TimeOfDay.twoDigits_numeral (hdigits c (by simp)) (hdigits d (by simp))
    rw [← String.toList_inj, htext, TimeOfDay.text, String.toList_ofList, TimeOfDay.chars, hfirst,
      hlast]
    rfl
  · rintro rfl
    refine ⟨hh, hm, _, _, _, _, String.toList_ofList, ?_, numeral_twoDigits t.hour (by omega),
      numeral_twoDigits t.minute (by omega)⟩
    have hfirst := all_isDigit_twoDigits t.hour (by omega)
    have hlast := all_isDigit_twoDigits t.minute (by omega)
    intro digit hmem
    have hboth : (twoDigits t.hour ++ twoDigits t.minute).all Char.isDigit = true := by
      rw [List.all_append, hfirst, hlast]
      rfl
    exact List.all_eq_true.1 hboth digit hmem

theorem fault?_eq_none_iff (d : Draft) :
    d.fault? = none ↔ isBlankText d.title = false ∧ d.finish = d.start.plusOneHour := by
  unfold fault?
  cases isBlankText d.title with
  | true => simp
  | false => simp

/-- Six texts are a draft iff they spell a valid one. -/
theorem acceptable_iff (texts : Field → String) :
    Acceptable texts ↔ ∃ d : Draft, (∀ field, Spelled d field (texts field)) ∧ d.fault? = none := by
  constructor
  · rintro ⟨htitle, ⟨date, hdate⟩, hour, minute, hstart, hfinish⟩
    let start : TimeOfDay := ⟨hour, minute, hstart.hour_lt, hstart.minute_lt⟩
    refine ⟨⟨texts .title, date, start, start.plusOneHour, texts .color, texts .note⟩, ?_,
      (fault?_eq_none_iff _).2 ⟨htitle, rfl⟩⟩
    intro field
    cases field with
    | title => rfl
    | date => exact hdate
    | start => exact (spellsTime_iff start _).1 hstart
    | finish => exact (spellsTime_iff start.plusOneHour _).1 hfinish
    | color => rfl
    | note => rfl
  · rintro ⟨d, hspelled, hvalid⟩
    obtain ⟨htitle, hslot⟩ := (fault?_eq_none_iff d).1 hvalid
    have hstart := (spellsTime_iff d.start _).2 (hspelled .start)
    have hfinish := (spellsTime_iff d.finish _).2 (hspelled .finish)
    have htext : texts .title = d.title := hspelled .title
    refine ⟨by rw [htext]; exact htitle, ⟨d.date, hspelled .date⟩, d.start.hour, d.start.minute,
      hstart, ?_⟩
    rw [hslot] at hfinish
    exact hfinish

/-- The texts of a value are determined by it. -/
theorem texts_eq_of_hasTexts {texts texts' : Field → String} {value : Json}
    (h : HasTexts texts value) (h' : HasTexts texts' value) : texts = texts' := by
  have hstrings : ∀ field : Field, (Json.string (texts field)) = .string (texts' field) := by
    intro field
    cases value with
    | scalar scalar => exact absurd h id
    | array items => exact List.map_inj_left.1 (h.symm.trans h') field field.mem_all
    | object members => exact Option.some.inj ((h field).symm.trans (h' field))
  funext field
  simpa using hstrings field

/-- A value is read as a draft iff its texts spell that draft. -/
theorem ofJson_iff (value : Json) (d : Draft) :
    ofJson value = .ok d ↔ ∃ texts, HasTexts texts value ∧
      (∀ field, Spelled d field (texts field)) ∧ d.fault? = none := by
  cases value with
  | scalar scalar =>
    constructor
    · rintro ⟨⟩
    · rintro ⟨texts, htexts, -⟩
      cases htexts
  | array items =>
    rw [ofJson_array_iff]
    constructor
    · rintro ⟨⟨texts, htexts, hspelled⟩, hvalid⟩
      exact ⟨texts, htexts, hspelled, hvalid⟩
    · rintro ⟨texts, htexts, hspelled, hvalid⟩
      exact ⟨⟨texts, htexts, hspelled⟩, hvalid⟩
  | object members =>
    rw [ofJson_object_iff]
    constructor
    · rintro ⟨hspelled, hvalid⟩
      choose texts hget hspelled using hspelled
      exact ⟨texts, hget, hspelled, hvalid⟩
    · rintro ⟨texts, hget, hspelled, hvalid⟩
      exact ⟨fun field => ⟨texts field, hget field, hspelled field⟩, hvalid⟩

/-- What is read has the contents of the texts. -/
theorem contents_of_spelled {d : Draft} {texts : Field → String}
    (h : ∀ field, Spelled d field (texts field)) : Contents d texts := by
  have htime : ∀ field, texts field = d.textOf field →
      d.toJson.get? field.key = some (.string (texts field)) := by
    intro field htext
    rw [htext]
    exact get?_toJson d field
  exact ⟨(h .title).symm, h .date, htime .start (h .start), htime .finish (h .finish),
    (h .color).symm, (h .note).symm⟩

/-! ### The order of the members -/

section Order

variable {members members' : List (String × Json)}

theorem onceEach_perm (h : members.Perm members') :
    OnceEach (.object members) ↔ OnceEach (.object members') := by
  have hcount : ∀ key, (members.map (·.1)).count key = (members'.map (·.1)).count key :=
    fun key => (h.map (·.1)).count_eq key
  simp only [OnceEach, hcount]

/-- Where no member of a draft stands twice, the order of the members does not matter. -/
theorem ofJson_perm (h : members.Perm members') (honce : OnceEach (.object members)) (d : Draft) :
    ofJson (.object members) = .ok d ↔ ofJson (.object members') = .ok d := by
  have honce' := (onceEach_perm h).1 honce
  have hget : ∀ (field : Field) value, (Json.object members).get? field.key = some value ↔
      (Json.object members').get? field.key = some value := by
    intro field value
    constructor
    · intro hvalue
      exact get?_of_mem (honce' field) (h.mem_iff.1 (mem_of_get? hvalue))
    · intro hvalue
      exact get?_of_mem (honce field) (h.mem_iff.2 (mem_of_get? hvalue))
  simp only [ofJson_object_iff, hget]

end Order

/--
CORRECT: a value is read as a draft iff it holds six texts that are a draft, and what is read has
the contents of these texts. A text that is a value is read as a draft iff the value is, and no
member of a draft stands in it twice; and it is the same draft for every order of the members.
-/
theorem reads_exactly_the_shape (value : Json) :
    ((∃ d, ofJson value = .ok d) ↔ ∃ texts, HasTexts texts value ∧ Acceptable texts) ∧
    (∀ d texts, ofJson value = .ok d → HasTexts texts value → Contents d texts) ∧
    (∀ text, Json.ofText text = .ok value → ∀ d,
      ofText text = .ok d ↔ ofJson value = .ok d ∧ OnceEach value) ∧
    (∀ members members' text, value = .object members → members.Perm members' →
      Json.ofText text = .ok (.object members') → ∀ d,
        ofText text = .ok d ↔ ofJson value = .ok d ∧ OnceEach value) := by
  refine ⟨?_, ?_, ?_, ?_⟩
  · simp only [ofJson_iff, acceptable_iff]
    constructor
    · rintro ⟨d, texts, htexts, hspelled, hvalid⟩
      exact ⟨texts, htexts, d, hspelled, hvalid⟩
    · rintro ⟨texts, htexts, d, hspelled, hvalid⟩
      exact ⟨d, texts, htexts, hspelled, hvalid⟩
  · intro d texts hread htexts
    obtain ⟨texts', htexts', hspelled, -⟩ := (ofJson_iff value d).1 hread
    rw [texts_eq_of_hasTexts htexts htexts']
    exact contents_of_spelled hspelled
  · intro text hvalue d
    exact ofText_eq_ok_iff hvalue d
  · rintro members members' text rfl hperm htext d
    rw [ofText_eq_ok_iff htext, ← onceEach_perm hperm]
    exact and_congr_left fun honce => (ofJson_perm hperm honce d).symm

/-- An object with its members the other way round, and its text. -/
theorem reads_exactly_the_shape_reversed : ∃ (d : Draft) (members : List (String × Json))
    (text : String), Json.ofText text = .ok (.object members) ∧ OnceEach (.object members) ∧
      ofJson (.object members.reverse) = .ok d ∧ ofText text = .ok d := by
  let d : Draft :=
    { title := "Walk"
      date := { year := 2024, month := 1, day := 2 }
      start := { hour := 23, minute := 30 }
      finish := { hour := 0, minute := 30 }
      color := ""
      note := "" }
  let members : List (String × Json) :=
    Field.all.map fun field => (field.key, .string (d.textOf field))
  have htext : Json.ofText (d.toJson.pretty ++ "") = .ok (.object members) :=
    ofText_pretty_toJson d rfl
  have honce : OnceEach (.object members) := d.onceEach_toJson
  have hperm : members.reverse.Perm members := members.reverse_perm
  have hread : ofJson (.object members.reverse) = .ok d := by decide
  obtain ⟨-, -, -, horder⟩ := reads_exactly_the_shape (.object members.reverse)
  have hsame := (horder _ members _ rfl hperm htext d).2 ⟨hread, (onceEach_perm hperm).2 honce⟩
  exact ⟨d, members, _, htext, honce, hread, hsame⟩

/-- The date may be spelled leniently, the times may not; the hour after 23 is 0. -/
example : ofJson (.array [.string "Walk", .string "+2024 -1- 2", .string "23:30",
      .string "00:30", .string "", .string ""]) =
    .ok { title := "Walk"
          date := { year := 2024, month := 1, day := 2 }
          start := { hour := 23, minute := 30 }
          finish := { hour := 0, minute := 30 }
          color := ""
          note := "" } := by decide

end Agenda.Draft
