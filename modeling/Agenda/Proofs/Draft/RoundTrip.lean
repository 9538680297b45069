import Agenda.CommandLine.Run
import Agenda.Proofs.Command.Totality
import Agenda.Proofs.Draft.TextOrder
import Agenda.Proofs.Json.WrittenText

/-!
Written drafts are read back. What is written spells the draft and names each member once, so
reading it, as a value or as text, gives back the draft itself if it is valid, and otherwise tells
what is wrong with it. So a draft keeps its wire form: one that comes from a command is valid, and
one that was read from anywhere is valid too, however it was spelled there.

      d ──toJson──▶ value ──ofJson──▶ checked d
            └─pretty─▶ text ──ofText────▲
-/

namespace Agenda.Draft
open Agenda.Json

/-- What is written is an object of texts. -/
theorem toJson_eq_ofTexts (d : Draft) :
    d.toJson = ofTexts (Field.all.map fun field => (field.key, d.textOf field)) := rfl

/-- Under each key there is the text of the member. -/
theorem get?_toJson (d : Draft) (field : Field) :
    d.toJson.get? field.key = some (.string (d.textOf field)) := by
  cases field <;> rfl

/-- Each member is written once. -/
theorem onceEach_toJson (d : Draft) : OnceEach d.toJson := by
  have hkeys : ∀ field : Field, (Field.all.map Field.key).count field.key ≤ 1 := by
    intro field
    cases field <;> decide
  exact hkeys

theorem exists_spelled_toJson (d : Draft) (field : Field) :
    ∃ text, d.toJson.get? field.key = some (.string text) ∧ Spelled d field text :=
  ⟨d.textOf field, get?_toJson d field, spelled_textOf d field⟩

/-- Reading the value of a draft is checking the draft. -/
theorem ofJson_toJson (d : Draft) : ofJson d.toJson = d.checked.mapError .invalid :=
  ofJson_object_of_spelled d.exists_spelled_toJson

/-- The text of a draft is the text of its value, with white space behind it or not. -/
theorem ofText_pretty_toJson (d : Draft) {gap : String} (h : gap.toList.all isSpace = true) :
    Json.ofText (d.toJson.pretty ++ gap) = .ok d.toJson := by
  rw [toJson_eq_ofTexts]
  exact ofText_pretty_texts _ h

/-- Reading the text of a draft does what reading its value does. -/
theorem ofText_pretty (d : Draft) {gap : String} (h : gap.toList.all isSpace = true) :
    ofText (d.toJson.pretty ++ gap) = fromContent (ofJson d.toJson) := by
  rw [ofText_eq_inOrder (ofText_pretty_toJson d h), ofJson_toJson]
  exact inOrder_object_of_spelled d.onceEach_toJson d.exists_spelled_toJson

/-- A valid draft comes back. -/
theorem ofJson_toJson_of_valid {d : Draft} (h : d.fault? = none) : ofJson d.toJson = .ok d := by
  rw [ofJson_toJson, mapError_eq_ok, checked_eq_ok_iff]
  exact ⟨rfl, h⟩

/-- What has been read is valid. -/
theorem fault?_of_ofJson {value : Json} {d : Draft} (h : ofJson value = .ok d) :
    d.fault? = none := by
  cases value with
  | scalar scalar => cases h
  | array items => exact ((ofJson_array_iff items d).1 h).2
  | object members => exact ((ofJson_object_iff members d).1 h).2

/--
CORRECT: a draft that is written comes back if it is valid, and is refused with the wording of its
fault otherwise, both as a value and as the text that is printed; this is so for the drafts of
commands and for every draft that was read from a value.
-/
theorem wire_round_trip (d : Draft) :
    ofJson d.toJson = d.checked.mapError .invalid ∧
    (ofJson d.toJson).mapError DecodeError.message = d.checked.mapError Fault.message ∧
    (∀ gap : String, gap.toList.all isSpace = true →
      ofText (CommandLine.render d true ++ gap) = fromContent (ofJson d.toJson)) ∧
    (∀ command now, Command.draft? command now = some d → ofJson d.toJson = .ok d) ∧
    (∀ value, ofJson value = .ok d → ofJson d.toJson = .ok d) := by
  refine ⟨ofJson_toJson d, ?_, fun gap => ofText_pretty d, ?_, ?_⟩
  · rw [ofJson_toJson]
    cases d.checked with
    | ok d' => rfl
    | error fault => rfl
  · intro command now h
    obtain ⟨i, hi, rfl⟩ := Option.map_eq_some_iff.1 h
    exact ofJson_toJson_of_valid (Command.fault?_of_interpret hi)
  · intro value h
    exact ofJson_toJson_of_valid (fault?_of_ofJson h)

/-- A draft before the year 0 that was read from an array, with its date spelled another way. -/
theorem wire_round_trip_from_array : ∃ d : Draft,
    ofJson (.array [.string "Say \"hi\"", .string "-1-12 -31", .string "23:30", .string "00:30",
      .string "", .string "\n"]) = .ok d ∧
    ofJson d.toJson = .ok d ∧ ofText (CommandLine.render d true ++ "\n") = .ok d := by
  let d : Draft :=
    { title := "Say \"hi\""
      date := { year := -1, month := 12, day := 31 }
      start := { hour := 23, minute := 30 }
      finish := { hour := 0, minute := 30 }
      color := ""
      note := "\n" }
  have hread : ofJson (.array [.string "Say \"hi\"", .string "-1-12 -31", .string "23:30",
      .string "00:30", .string "", .string "\n"]) = .ok d := by decide
  have hgap : "\n".toList.all isSpace = true := rfl
  obtain ⟨-, -, htext, -, hvalue⟩ := wire_round_trip d
  have hback := hvalue _ hread
  refine ⟨d, hread, hback, ?_⟩
  rw [htext "\n" hgap, hback]
  rfl

end Agenda.Draft
