import Agenda.Draft.WireText
import Agenda.Proofs.Draft.Spelling
import Agenda.Proofs.Json.PassingOver

/-!
Reading a draft from a text in one pass. Where the text can be read as a value, the pass is a fold
over the members or items of that value in the order of the text, and that is as good as reading the
value itself, but for one thing: of a member that stands in the text twice the value keeps the last
one, and the pass refuses the second one.

      text ──Json.ofText──▶ value ──ofJson──▶ draft
        └──────────────ofText─────────────────▲          each key of a draft once
-/

namespace Agenda.Draft
open Agenda.Json

/-- Reads a member if it is one of a draft and has not been read before. -/
def Slots.putOnce (s : Slots) (member : String × Json) : Except ReadError Slots :=
  match Field.ofKey? member.1 with
  | some field =>
    if s.has field then .error (.content (.repeated field))
    else fromContent (s.put member.2.head field)
  | none => .ok s

/-- Reads an item as the next one of the members that are still to come. -/
def Slots.putNext : Slots × List Field → Json → Except ReadError (Slots × List Field)
  | (s, field :: left), item => (fromContent (s.put item.head field)).map fun s => (s, left)
  | (_, []), _ => .error (.text .malformed)

/-- Reads a draft from the parts of a value in the order of the text. -/
def inOrder : Json → Except ReadError Draft
  | .object members => do
    let slots ← members.foldlM Slots.putOnce {}
    fromContent slots.toDraft
  | .array items => do
    let (slots, left) ← items.foldlM Slots.putNext ({}, Field.all)
    if !left.isEmpty then .error (.content (.tooShort (6 - left.length)))
    fromContent slots.toDraft
  | value => .error (.content (.wrongKind value.head .draft))

/-! ### The pass over the text -/

/-- An array or an object is not read into a slot. -/
theorem scalar_of_put {s s' : Slots} {found : Head} {field : Field}
    (h : s.put found field = .ok s') : ∃ text, found = .scalar (.string text) := by
  cases field with
  | title | color | note =>
    obtain ⟨text, htext, -⟩ := map_eq_ok.1 h
    exact ⟨text, readText_eq_ok.1 htext⟩
  | date =>
    obtain ⟨date, hdate, -⟩ := map_eq_ok.1 h
    obtain ⟨text, htext, -⟩ := readDate_eq_ok.1 hdate
    exact ⟨text, htext⟩
  | start | finish =>
    obtain ⟨time, htime, -⟩ := map_eq_ok.1 h
    exact ⟨_, readTime_eq_ok.1 htime⟩

/-- A value that is read begins with its head, and a value that fills a slot ends with it. -/
theorem scanHead_of_readNested {levels : Nat} {cs rest : List Char} {value : Json}
    (h : readNested levels cs = .ok (value, rest)) :
    ∃ behind, scanHead cs = .ok (value.head, behind) ∧
      ∀ (s s' : Slots) field, s.put value.head field = .ok s' → behind = rest := by
  have hread : ∃ inner, readWith inner cs = .ok (value, rest) := by
    cases levels with
    | zero => exact ⟨_, readWith_of_readScalar h fun _ => .error .malformed⟩
    | succ levels => exact ⟨_, h⟩
  obtain ⟨inner, hread⟩ := hread
  obtain ⟨⟨head, behind⟩, hhead, hread⟩ := bind_eq_ok.1 hread
  cases head with
  | scalar scalar =>
    cases hread
    exact ⟨rest, hhead, fun _ _ _ _ => rfl⟩
  | array =>
    obtain ⟨⟨items, cs2⟩, -, heq⟩ := bind_eq_ok.1 hread
    cases heq
    refine ⟨behind, hhead, fun s s' field hput => ?_⟩
    obtain ⟨text, htext⟩ := scalar_of_put hput
    cases htext
  | object =>
    obtain ⟨⟨members, cs2⟩, -, heq⟩ := bind_eq_ok.1 hread
    cases heq
    refine ⟨behind, hhead, fun s s' field hput => ?_⟩
    obtain ⟨text, htext⟩ := scalar_of_put hput
    cases htext

/-- The pass reads a member and goes on behind it. -/
theorem scanMember_of_readMember {levels : Nat} {cs rest : List Char} {member : String × Json}
    (h : readMember (readNested levels) cs = .ok (member, rest)) (s : Slots) :
    scanMember s cs = (s.putOnce member).map fun s => (s, rest) := by
  obtain ⟨⟨key, cs1⟩, hkey, h⟩ := bind_eq_ok.1 h
  obtain ⟨cs2, hcolon, h⟩ := bind_eq_ok.1 h
  obtain ⟨⟨value, cs3⟩, hvalue, heq⟩ := bind_eq_ok.1 h
  cases heq
  simp only [scanMember, Slots.putOnce, hkey, fromText, mapError_ok, bind, Except.bind]
  cases hfield : Field.ofKey? key with
  | none => simp only [hcolon, skipValue_of_readNested hvalue, mapError_ok, Except.map]
  | some field =>
    simp only
    by_cases htwice : s.has field = true
    · rw [if_pos htwice, if_pos htwice]
      rfl
    · obtain ⟨behind, hhead, hbehind⟩ := scanHead_of_readNested hvalue
      rw [if_neg htwice, if_neg htwice]
      simp only [hcolon, hhead, mapError_ok]
      cases hput : s.put value.head field with
      | error e => rfl
      | ok s' =>
        cases hbehind s s' field hput
        rfl

/-- The pass reads an item and goes on behind it. -/
theorem scanItem_of_readNested {levels : Nat} {cs rest : List Char} {item : Json}
    (h : readNested levels cs = .ok (item, rest)) (t : Slots × List Field) :
    scanItem t cs = (Slots.putNext t item).map fun t => (t, rest) := by
  obtain ⟨s, left⟩ := t
  cases left with
  | nil => rfl
  | cons field left =>
    obtain ⟨behind, hhead, hbehind⟩ := scanHead_of_readNested h
    simp only [scanItem, Slots.putNext, hhead, fromText, mapError_ok, bind, Except.bind]
    cases hput : s.put item.head field with
    | error e => rfl
    | ok s' =>
      cases hbehind s s' field hput
      rfl

/-- The pass over a value reads its parts in order and stops where the value ends. -/
theorem scan_of_readNested {levels : Nat} {cs rest : List Char} {value : Json}
    (h : readNested (levels + 1) cs = .ok (value, rest)) :
    scan cs = (inOrder value).map fun d => (d, rest) := by
  obtain ⟨⟨head, cs1⟩, hhead, h⟩ := bind_eq_ok.1 h
  simp only [scan, hhead, fromText, mapError_ok, bind, Except.bind]
  cases head with
  | scalar scalar =>
    cases h
    rfl
  | array =>
    obtain ⟨⟨items, cs2⟩, hitems, heq⟩ := bind_eq_ok.1 h
    cases heq
    have hfold := (foldSequence_of_collect ReadError.text (fun _ _ _ => readNested_length)
      (fun t cs item rest _ hread => scanItem_of_readNested hread t) (Nat.le_refl _) hitems).2
    simp only [hfold, inOrder, bind, Except.bind]
    cases items.reverse.foldlM Slots.putNext ({}, Field.all) with
    | error e => rfl
    | ok t =>
      obtain ⟨slots, left⟩ := t
      simp only [Except.map]
      cases left with
      | nil =>
        simp only [List.isEmpty_nil, Bool.not_true, Bool.false_eq_true, if_false]
      | cons field left => rfl
  | object =>
    obtain ⟨⟨members, cs2⟩, hmembers, heq⟩ := bind_eq_ok.1 h
    cases heq
    have hfold := (foldSequence_of_collect ReadError.text
      (fun _ _ _ => readMember_length fun _ _ _ => readNested_length)
      (fun s cs member rest _ hread => scanMember_of_readMember hread s) (Nat.le_refl _)
      hmembers).2
    simp only [hfold, inOrder, bind, Except.bind]
    cases members.reverse.foldlM Slots.putOnce {} with
    | error e => rfl
    | ok slots => simp only [Except.map]

/-- CORRECT: reading a draft from the text of a value is reading the value's parts in order. -/
theorem ofText_eq_inOrder {s : String} {value : Json} (h : Json.ofText s = .ok value) :
    ofText s = inOrder value := by
  obtain ⟨⟨value', rest⟩, hread, h⟩ := bind_eq_ok.1 h
  simp only at h
  split at h
  · rename_i hrest
    cases h
    simp only [ofText, scan_of_readNested hread, bind, Except.bind]
    cases inOrder value with
    | error e => rfl
    | ok d => exact if_pos hrest
  · cases h

/-! ### Members that stand once -/

/-- A member of a draft stands in a value at most once. -/
def OnceEach : Json → Prop
  | .object members => ∀ field : Field, (members.map (·.1)).count field.key ≤ 1
  | _ => True

/-- A member that stands once has one value. -/
theorem eq_of_onceEach {members : List (String × Json)} (h : OnceEach (.object members))
    (field : Field) (v w : Json) (hv : (field.key, v) ∈ members) (hw : (field.key, w) ∈ members) :
    v = w :=
  eq_of_count_le_one (h field) hv hw

namespace Slots

theorem has_put {s s' : Slots} {found : Head} {field : Field} (h : s.put found field = .ok s')
    (other : Field) : s'.has other = (s.has other || other == field) := by
  cases field <;> obtain ⟨value, -, rfl⟩ := map_eq_ok.1 h <;> cases other <;> simp [has]

/-- How often a member has been read. -/
def times (s : Slots) (field : Field) : Nat := if s.has field then 1 else 0

theorem times_put {s s' : Slots} {found : Head} {field : Field} (h : s.put found field = .ok s')
    (hnew : s.has field = false) (other : Field) :
    s'.times other = s.times other + if field.key == other.key then 1 else 0 := by
  simp only [times, has_put h, Field.key_beq]
  by_cases heq : field = other
  · subst heq
    simp [hnew]
  · simp [heq, Ne.symm heq]

/-- Where no member stands twice, the pass over the members does what reading them does. -/
theorem foldlM_putOnce {s : Slots} {members : List (String × Json)}
    (h : ∀ field : Field, s.times field + (members.map (·.1)).count field.key ≤ 1) :
    members.foldlM putOnce s = fromContent (members.foldlM putMember s) := by
  induction members generalizing s with
  | nil => rfl
  | cons member members ih =>
    obtain ⟨key, value⟩ := member
    simp only [List.foldlM_cons, List.map_cons, List.count_cons, putOnce, putMember] at h ⊢
    cases hkey : Field.ofKey? key with
    | none => exact ih fun field => by have := h field; omega
    | some field =>
      cases Field.key_of_ofKey? hkey
      have hnew : s.has field = false := by
        have hfield := h field
        rw [beq_self_eq_true, if_pos rfl, times] at hfield
        by_contra htwice
        rw [if_pos (by simpa using htwice)] at hfield
        omega
      simp only [hnew, Bool.false_eq_true, if_false]
      cases hput : s.put value.head field with
      | error e => rfl
      | ok s' => exact ih fun other => by have := h other; rw [times_put hput hnew]; omega

/-- If the pass comes to the end, no member stands twice. -/
theorem once_of_foldlM_putOnce {s s' : Slots} {members : List (String × Json)}
    (h : members.foldlM putOnce s = .ok s') (field : Field) :
    s.times field + (members.map (·.1)).count field.key ≤ 1 := by
  induction members generalizing s with
  | nil =>
    rw [List.map_nil, List.count_nil, times]
    split <;> decide
  | cons member members ih =>
    obtain ⟨key, value⟩ := member
    rw [List.foldlM_cons] at h
    obtain ⟨s1, hfirst, hrest⟩ := bind_eq_ok.1 h
    have ih := ih hrest
    simp only [List.map_cons, List.count_cons]
    unfold putOnce at hfirst
    split at hfirst
    · rename_i other hkey
      obtain rfl := Field.key_of_ofKey? hkey
      split at hfirst
      · cases hfirst
      · rename_i hnew
        have hput := times_put (mapError_eq_ok.1 hfirst) (by simpa using hnew) field
        omega
    · rename_i hkey
      cases hfirst
      have hne : (key == field.key) = false := by
        rw [Bool.beq_comm]
        exact Field.key_beq_of_ofKey? hkey field
      rw [hne]
      exact ih

/-- The items fill the fields one after the other; there may be no more items than fields. -/
theorem foldlM_putNext_eq_ok {s s' : Slots} {fields left : List Field} {items : List Json} :
    items.foldlM putNext (s, fields) = .ok (s', left) ↔
      s.putItems fields items = .ok s' ∧ items.length ≤ fields.length ∧
        left = fields.drop items.length := by
  induction items generalizing s fields with
  | nil =>
    have hfold : ([] : List Json).foldlM putNext (s, fields) = .ok (s, fields) := rfl
    have hput : s.putItems fields [] = .ok s := by cases fields <;> rfl
    simp [hfold, hput, eq_comm]
  | cons item items ih =>
    cases fields with
    | nil => simp [putNext, bind, Except.bind]
    | cons field fields =>
      simp only [List.foldlM_cons, putNext, putItems]
      cases hput : s.put item.head field with
      | error e => simp [fromContent, mapError_error, Except.map, bind, Except.bind]
      | ok s1 =>
        have hfirst : (fromContent (.ok s1 : Except DecodeError Slots)).map
            (fun s => (s, fields)) = .ok (s1, fields) := rfl
        simp only [hfirst, bind, Except.bind, ih, List.length_cons, List.drop_succ_cons,
          Nat.add_le_add_iff_right]

theorem times_empty (field : Field) : ({} : Slots).times field = 0 := by
  cases field <;> rfl

end Slots

/-- An object with each member once is a draft in the order of the text iff it is one in key order. -/
theorem inOrder_object_of_once {members : List (String × Json)} (h : OnceEach (.object members)) :
    inOrder (.object members) =
      fromContent (members.foldlM Slots.putMember {} >>= Slots.toDraft) := by
  have hfold : members.foldlM Slots.putOnce {} =
      fromContent (members.foldlM Slots.putMember {}) :=
    Slots.foldlM_putOnce fun field => by rw [Slots.times_empty, Nat.zero_add]; exact h field
  simp only [inOrder, hfold, bind, Except.bind]
  cases members.foldlM Slots.putMember {} with
  | error e => rfl
  | ok slots => rfl

/-- An object that spells a draft once is that draft, or is refused for what is wrong with it. -/
theorem inOrder_object_of_spelled {members : List (String × Json)} {d : Draft}
    (honce : OnceEach (.object members))
    (h : ∀ field : Field, ∃ text, (Json.object members).get? field.key = some (.string text) ∧
      Spelled d field text) :
    inOrder (.object members) = fromContent (d.checked.mapError .invalid) := by
  have hmem : ∀ field : Field, ∃ text, (field.key, .string text) ∈ members ∧
      Spelled d field text := by
    intro field
    obtain ⟨text, hget, hspelled⟩ := h field
    exact ⟨text, mem_of_get? hget, hspelled⟩
  rw [inOrder_object_of_once honce,
    Slots.toDraft_foldlM_of_spelled (eq_of_onceEach honce) hmem]

theorem once_of_inOrder {members : List (String × Json)} {d : Draft}
    (h : inOrder (.object members) = .ok d) : OnceEach (.object members) := by
  intro field
  obtain ⟨slots, hfold, -⟩ := bind_eq_ok.1 h
  have honce := Slots.once_of_foldlM_putOnce hfold field
  omega

theorem inOrder_object_iff (members : List (String × Json)) (d : Draft) :
    inOrder (.object members) = .ok d ↔
      ofJson (.object members) = .ok d ∧ OnceEach (.object members) := by
  have hsame : OnceEach (.object members) →
      (inOrder (.object members) = .ok d ↔ ofJson (.object members) = .ok d) := by
    intro honce
    rw [inOrder_object_of_once honce, ofJson_object_iff, fromContent, mapError_eq_ok,
      Slots.toDraft_foldlM_iff (eq_of_onceEach honce)]
    have hget : ∀ (field : Field) value, (field.key, value) ∈ members ↔
        (Json.object members).get? field.key = some value :=
      fun field value => ⟨get?_of_mem (honce field), mem_of_get?⟩
    simp only [hget]
  constructor
  · intro h
    have honce := once_of_inOrder h
    exact ⟨(hsame honce).1 h, honce⟩
  · rintro ⟨h, honce⟩
    exact (hsame honce).2 h

theorem inOrder_array_iff (items : List Json) (d : Draft) :
    inOrder (.array items) = .ok d ↔ ofJson (.array items) = .ok d := by
  have hsix : Field.all.length = 6 := rfl
  rw [ofJson_array_eq_ok, ← Slots.putItems_eq_foldlM]
  constructor
  · intro h
    obtain ⟨⟨slots, left⟩, hfold, h⟩ := bind_eq_ok.1 h
    obtain ⟨hput, hle, rfl⟩ := Slots.foldlM_putNext_eq_ok.1 hfold
    simp only at h
    split at h
    · cases h
    · rename_i hleft
      rw [Bool.not_eq_true, Bool.not_eq_false', List.isEmpty_iff, List.drop_eq_nil_iff] at hleft
      exact ⟨by omega, bind_eq_ok.2 ⟨slots, hput, mapError_eq_ok.1 h⟩⟩
  · rintro ⟨hlength, h⟩
    obtain ⟨slots, hput, h⟩ := bind_eq_ok.1 h
    have hfold := Slots.foldlM_putNext_eq_ok.2 ⟨hput, by omega, rfl⟩
    rw [List.drop_of_length_le (by omega)] at hfold
    rw [inOrder, hfold]
    exact mapError_eq_ok.2 h

/-- A value in the order of the text is the draft that it is in key order, if no member is repeated. -/
theorem inOrder_eq_ok_iff (value : Json) (d : Draft) :
    inOrder value = .ok d ↔ ofJson value = .ok d ∧ OnceEach value := by
  cases value with
  | scalar scalar =>
    have hleft : inOrder (.scalar scalar) ≠ .ok d := by rintro ⟨⟩
    have hright : ofJson (.scalar scalar) ≠ .ok d := by rintro ⟨⟩
    exact iff_of_false hleft fun h => hright h.1
  | array items => exact (inOrder_array_iff items d).trans (and_iff_left trivial).symm
  | object members => exact inOrder_object_iff members d

/--
CORRECT: the text of a value is a draft iff the value is that draft and no member of a draft stands
in it twice.
-/
theorem ofText_eq_ok_iff {s : String} {value : Json} (h : Json.ofText s = .ok value) (d : Draft) :
    ofText s = .ok d ↔ ofJson value = .ok d ∧ OnceEach value := by
  rw [ofText_eq_inOrder h]
  exact inOrder_eq_ok_iff value d

end Agenda.Draft
