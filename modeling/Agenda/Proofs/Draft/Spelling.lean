import Agenda.Draft.Wire
import Agenda.Proofs.Calendar.DateText
import Agenda.Proofs.Json.Members
import Agenda.Proofs.Json.PassingOver

/-!
What a value has to say to be read as a draft. Six texts spell a draft if each of them spells its
member: the dates may be spelled in several ways, everything else stands for itself. Reading fills
the slots member by member. Forwards, members that spell a draft fill the slots with that draft;
backwards, whatever is in the slots at the end has been spelled by some member. CORRECT puts the
two together, for objects and for arrays.
-/

namespace Agenda.Draft
open Agenda.Calendar Agenda.Json Agenda.Text

/-- Whether a text spells a member of a draft. -/
def Spelled (d : Draft) : Field → String → Prop
  | .title, text => text = d.title
  | .date, text => Date.ofText text = .ok d.date
  | .start, text => text = d.start.text
  | .finish, text => text = d.finish.text
  | .color, text => text = d.color
  | .note, text => text = d.note

/-- The text with which a member of a draft is written. -/
def textOf (d : Draft) : Field → String
  | .title => d.title
  | .date => d.date.text
  | .start => d.start.text
  | .finish => d.finish.text
  | .color => d.color
  | .note => d.note

/-- What is written spells the draft. -/
theorem spelled_textOf (d : Draft) (field : Field) : Spelled d field (d.textOf field) := by
  cases field with
  | date => exact Date.ofText_text d.date
  | title => rfl
  | start => rfl
  | finish => rfl
  | color => rfl
  | note => rfl

/-- A draft, if nothing is wrong with it. -/
def checked (d : Draft) : Except Fault Draft :=
  match d.fault? with
  | none => .ok d
  | some fault => .error fault

theorem checked_eq_ok_iff {d d' : Draft} : d.checked = .ok d' ↔ d = d' ∧ d.fault? = none := by
  unfold checked
  split
  · rename_i hvalid
    simp [hvalid]
  · rename_i fault hfault
    simp [hfault]

theorem Field.mem_all (field : Field) : field ∈ Field.all := by
  cases field <;> decide

/-- The key of a member leads back to it. -/
theorem Field.ofKey?_key (field : Field) : Field.ofKey? field.key = some field := by
  cases field <;> rfl

theorem Field.key_of_ofKey? {key : String} {field : Field} (h : Field.ofKey? key = some field) :
    key = field.key := by
  have hkey := List.find?_some h
  exact (by simpa using hkey : field.key = key).symm

theorem Field.key_injective {field other : Field} (h : field.key = other.key) : field = other := by
  have hkeys := congrArg Field.ofKey? h
  rw [Field.ofKey?_key, Field.ofKey?_key] at hkeys
  exact Option.some.inj hkeys

theorem Field.key_beq (field other : Field) : (field.key == other.key) = (field == other) := by
  rw [Bool.eq_iff_iff, beq_iff_eq, beq_iff_eq]
  exact ⟨Field.key_injective, congrArg Field.key⟩

/-- A key that leads to no member is the key of none. -/
theorem Field.key_beq_of_ofKey? {key : String} (h : Field.ofKey? key = none) (field : Field) :
    (field.key == key) = false := by
  rw [beq_eq_false_iff_ne]
  rintro rfl
  rw [Field.ofKey?_key] at h
  cases h

/-! ### Single members -/

/-- Only a string looks like one. -/
theorem head_eq_string {value : Json} {text : String} (h : value.head = .scalar (.string text)) :
    value = .string text := by
  cases value with
  | scalar => cases h; rfl
  | array => cases h
  | object => cases h

theorem readText_eq_ok {wanted : Wanted} {found : Head} {text : String} :
    readText wanted found = .ok text ↔ found = .scalar (.string text) := by
  unfold readText
  split
  · simp
  · rename_i hne
    simp only [reduceCtorEq, false_iff]
    exact hne text

theorem readDate_eq_ok {found : Head} {date : Date} :
    readDate found = .ok date ↔ ∃ text, found = .scalar (.string text) ∧ Date.ofText text = .ok date := by
  rw [readDate, bind_eq_ok]
  simp only [readText_eq_ok, mapError_eq_ok]

theorem readTime_eq_ok {found : Head} {time : TimeOfDay} :
    readTime found = .ok time ↔ found = .scalar (.string time.text) := by
  rw [readTime, bind_eq_ok]
  simp only [readText_eq_ok, mapError_eq_ok, TimeOfDay.ofText_eq_ok_iff, exists_eq_right]

namespace Slots

/-- The slots with those members of a draft that have been read. -/
def part (d : Draft) (read : Field → Bool) : Slots where
  title := if read .title then some d.title else none
  date := if read .date then some d.date else none
  start := if read .start then some d.start else none
  finish := if read .finish then some d.finish else none
  color := if read .color then some d.color else none
  note := if read .note then some d.note else none

/-- A text that spells a member fills its slot. -/
theorem put_part {d : Draft} {field : Field} {text : String} (h : Spelled d field text)
    (read : Field → Bool) :
    (part d read).put (.scalar (.string text)) field =
      .ok (part d fun other => read other || other == field) := by
  cases field with
  | title => cases h; simp [part, put, readText, Except.map]
  | date =>
    have hdate : readDate (.scalar (.string text)) = .ok d.date := readDate_eq_ok.2 ⟨text, rfl, h⟩
    simp [part, put, hdate, Except.map]
  | start =>
    have htime : readTime (.scalar (.string text)) = .ok d.start := readTime_eq_ok.2 (by rw [h])
    simp [part, put, htime, Except.map]
  | finish =>
    have htime : readTime (.scalar (.string text)) = .ok d.finish := readTime_eq_ok.2 (by rw [h])
    simp [part, put, htime, Except.map]
  | color => cases h; simp [part, put, readText, Except.map]
  | note => cases h; simp [part, put, readText, Except.map]

/-- Members that spell a draft fill its slots. -/
theorem foldlM_putMember_part {d : Draft} {members : List (String × Json)}
    (h : ∀ field value, (field.key, value) ∈ members →
      ∃ text, value = .string text ∧ Spelled d field text) (read : Field → Bool) :
    members.foldlM putMember (part d read) =
      .ok (part d fun field => read field || (members.map (·.1)).contains field.key) := by
  induction members generalizing read with
  | nil => simp only [List.foldlM_nil, List.map_nil, List.contains_nil, Bool.or_false]; rfl
  | cons member members ih =>
    obtain ⟨key, value⟩ := member
    have ih := ih fun field value hmem => h field value (List.mem_cons_of_mem _ hmem)
    rw [List.foldlM_cons]
    cases hkey : Field.ofKey? key with
    | none =>
      have hput : (part d read).putMember (key, value) = .ok (part d read) := by
        simp only [putMember, hkey]
      simp only [hput, bind, Except.bind, ih, List.map_cons, List.contains_cons,
        Field.key_beq_of_ofKey? hkey, Bool.false_or]
    | some field =>
      cases Field.key_of_ofKey? hkey
      obtain ⟨text, rfl, hspelled⟩ := h field value List.mem_cons_self
      have hput : (part d read).putMember (field.key, .string text) =
          .ok (part d fun other => read other || other == field) := by
        simp only [putMember, hkey]
        exact put_part hspelled read
      simp only [hput, bind, Except.bind, ih, List.map_cons, List.contains_cons, Field.key_beq,
        Bool.or_assoc]

/-- Full slots are the draft, if nothing is wrong with it. -/
theorem toDraft_part (d : Draft) :
    (part d fun _ => true).toDraft = d.checked.mapError .invalid := by
  have hfull : (part d fun _ => true).toDraft =
      match d.fault? with
      | none => .ok d
      | some fault => .error (.invalid fault) := rfl
  rw [hfull, checked]
  cases d.fault? with
  | none => rfl
  | some fault => rfl

/-- Members that spell a draft, all of them, give that draft or say what is wrong with it. -/
theorem toDraft_foldlM_of_spelled {d : Draft} {members : List (String × Json)}
    (hone : ∀ (field : Field) v w, (field.key, v) ∈ members → (field.key, w) ∈ members → v = w)
    (h : ∀ field, ∃ text, (field.key, .string text) ∈ members ∧ Spelled d field text) :
    (members.foldlM putMember {} >>= toDraft) = d.checked.mapError .invalid := by
  have hall : ∀ (field : Field) value, (field.key, value) ∈ members →
      ∃ text, value = .string text ∧ Spelled d field text := by
    intro field value hmem
    obtain ⟨text, hmem', htext⟩ := h field
    exact ⟨text, hone field value _ hmem hmem', htext⟩
  have hfull : ∀ field : Field, (members.map (·.1)).contains field.key = true := by
    intro field
    obtain ⟨text, hmem, -⟩ := h field
    exact List.contains_iff_mem.2 (List.mem_map_of_mem (f := (·.1)) hmem)
  have hfold : members.foldlM putMember {} = .ok (part d fun _ => true) := by
    have hpart := foldlM_putMember_part hall fun _ => false
    simp only [hfull, Bool.or_true] at hpart
    exact hpart
  rw [hfold]
  exact toDraft_part d

/-! ### Backwards: the slots are filled by members -/

/-- Whether a slot holds what a draft has there. -/
def Agrees (s : Slots) (d : Draft) : Field → Prop
  | .title => s.title = some d.title
  | .date => s.date = some d.date
  | .start => s.start = some d.start
  | .finish => s.finish = some d.finish
  | .color => s.color = some d.color
  | .note => s.note = some d.note

/-- What is in a slot was there before, or has just been spelled. -/
theorem agrees_of_put {s s' : Slots} {found : Head} {field : Field}
    (h : s.put found field = .ok s') {d : Draft} {other : Field} (hagrees : s'.Agrees d other) :
    s.Agrees d other ∨
      (other = field ∧ ∃ text, found = .scalar (.string text) ∧ Spelled d field text) := by
  by_cases heq : other = field
  · subst heq
    refine Or.inr ⟨rfl, ?_⟩
    cases other with
    | title =>
      obtain ⟨text, htext, rfl⟩ := map_eq_ok.1 h
      exact ⟨text, readText_eq_ok.1 htext, Option.some.inj hagrees⟩
    | date =>
      obtain ⟨date, hdate, rfl⟩ := map_eq_ok.1 h
      cases hagrees
      exact readDate_eq_ok.1 hdate
    | start =>
      obtain ⟨time, htime, rfl⟩ := map_eq_ok.1 h
      cases hagrees
      exact ⟨_, readTime_eq_ok.1 htime, rfl⟩
    | finish =>
      obtain ⟨time, htime, rfl⟩ := map_eq_ok.1 h
      cases hagrees
      exact ⟨_, readTime_eq_ok.1 htime, rfl⟩
    | color =>
      obtain ⟨text, htext, rfl⟩ := map_eq_ok.1 h
      exact ⟨text, readText_eq_ok.1 htext, Option.some.inj hagrees⟩
    | note =>
      obtain ⟨text, htext, rfl⟩ := map_eq_ok.1 h
      exact ⟨text, readText_eq_ok.1 htext, Option.some.inj hagrees⟩
  · -- reading a member leaves the other slots
    left
    cases field <;> obtain ⟨value, -, rfl⟩ := map_eq_ok.1 h <;> cases other <;>
      first | exact hagrees | exact absurd rfl heq

/-- What is in a slot after reading members was there before, or one of them spells it. -/
theorem agrees_of_foldlM {s s' : Slots} {members : List (String × Json)}
    (h : members.foldlM putMember s = .ok s') {d : Draft} {field : Field}
    (hagrees : s'.Agrees d field) :
    s.Agrees d field ∨ ∃ text, (field.key, .string text) ∈ members ∧ Spelled d field text := by
  induction members generalizing s with
  | nil =>
    cases h
    exact Or.inl hagrees
  | cons member members ih =>
    obtain ⟨key, value⟩ := member
    rw [List.foldlM_cons, bind_eq_ok] at h
    obtain ⟨s1, hfirst, hrest⟩ := h
    rcases ih hrest with hagrees1 | ⟨text, hmem, hspelled⟩
    · unfold putMember at hfirst
      split at hfirst
      · rename_i other hkey
        rcases agrees_of_put hfirst hagrees1 with hagrees0 | ⟨rfl, text, hvalue, hspelled⟩
        · exact Or.inl hagrees0
        · cases Field.key_of_ofKey? hkey
          cases head_eq_string hvalue
          exact Or.inr ⟨text, List.mem_cons_self, hspelled⟩
      · cases hfirst
        exact Or.inl hagrees1
    · exact Or.inr ⟨text, List.mem_cons_of_mem _ hmem, hspelled⟩

theorem need_eq_ok {α : Type} {field : Field} {found : Option α} {value : α} :
    need field found = .ok value ↔ found = some value := by
  cases found <;> simp [need]

/-- The draft that comes out is in the slots, and nothing is wrong with it. -/
theorem agrees_of_toDraft {s : Slots} {d : Draft} (h : s.toDraft = .ok d) :
    (∀ field, s.Agrees d field) ∧ d.fault? = none := by
  unfold toDraft at h
  simp only [bind_eq_ok, need_eq_ok] at h
  obtain ⟨title, htitle, date, hdate, start, hstart, finish, hfinish, color, hcolor, note, hnote,
    h⟩ := h
  split at h
  · rename_i hvalid
    cases h
    refine ⟨?_, hvalid⟩
    intro field
    cases field <;> assumption
  · cases h

/--
CORRECT: members of which no two of a draft differ under one key give a draft iff they spell it and
nothing is wrong with it.
-/
theorem toDraft_foldlM_iff {members : List (String × Json)}
    (hone : ∀ (field : Field) v w, (field.key, v) ∈ members → (field.key, w) ∈ members → v = w)
    (d : Draft) :
    (members.foldlM putMember {} >>= toDraft) = .ok d ↔
      (∀ field, ∃ text, (field.key, .string text) ∈ members ∧ Spelled d field text) ∧
        d.fault? = none := by
  constructor
  · intro h
    obtain ⟨s, hfold, hdraft⟩ := bind_eq_ok.1 h
    obtain ⟨hagrees, hvalid⟩ := agrees_of_toDraft hdraft
    refine ⟨?_, hvalid⟩
    intro field
    rcases agrees_of_foldlM hfold (hagrees field) with hempty | hmember
    · cases field <;> cases hempty
    · exact hmember
  · rintro ⟨hspelled, hvalid⟩
    rw [toDraft_foldlM_of_spelled hone hspelled, mapError_eq_ok, checked_eq_ok_iff]
    exact ⟨rfl, hvalid⟩

/-- Items are read like members with the keys of the fields. -/
theorem putItems_eq_foldlM (s : Slots) (fields : List Field) (items : List Json) :
    s.putItems fields items =
      ((fields.zip items).map fun item => (item.1.key, item.2)).foldlM putMember s := by
  induction fields generalizing s items with
  | nil => rfl
  | cons field fields ih =>
    cases items with
    | nil => rfl
    | cons item items =>
      simp only [putItems, List.zip_cons_cons, List.map_cons, List.foldlM_cons, putMember,
        Field.ofKey?_key, ih]

end Slots

/-! ### Objects and arrays -/

/-- After sorting there is one value for each key. -/
theorem eq_of_mem_sortMembers {members : List (String × Json)} (field : Field) (v w : Json)
    (hv : (field.key, v) ∈ sortMembers members) (hw : (field.key, w) ∈ sortMembers members) :
    v = w := by
  rw [mem_sortMembers] at hv hw
  exact Option.some.inj (hv.symm.trans hw)

/-- An object whose last values spell a draft is that draft, or is refused for what is wrong with it. -/
theorem ofJson_object_of_spelled {members : List (String × Json)} {d : Draft}
    (h : ∀ field : Field, ∃ text, (Json.object members).get? field.key = some (.string text) ∧
      Spelled d field text) :
    ofJson (.object members) = d.checked.mapError .invalid := by
  simp only [← mem_sortMembers] at h
  exact Slots.toDraft_foldlM_of_spelled eq_of_mem_sortMembers h

/-- CORRECT: an object is a draft iff its last values under the six keys spell it. -/
theorem ofJson_object_iff (members : List (String × Json)) (d : Draft) :
    ofJson (.object members) = .ok d ↔
      (∀ field : Field, ∃ text, (Json.object members).get? field.key = some (.string text) ∧
        Spelled d field text) ∧ d.fault? = none := by
  simp only [← mem_sortMembers]
  exact Slots.toDraft_foldlM_iff eq_of_mem_sortMembers d

/-- An array is read like an object with the six keys, but has to have six items. -/
theorem ofJson_array_eq_ok (items : List Json) (d : Draft) :
    ofJson (.array items) = .ok d ↔ items.length = 6 ∧
      (((Field.all.zip items).map fun item => (item.1.key, item.2)).foldlM Slots.putMember {} >>=
        Slots.toDraft) = .ok d := by
  rw [← Slots.putItems_eq_foldlM, ofJson, bind_eq_ok, bind_eq_ok, ← exists_and_left]
  refine exists_congr fun slots => ?_
  rw [and_left_comm]
  refine and_congr_right fun _ => ?_
  by_cases hshort : items.length < 6
  · simp only [if_pos hshort, reduceCtorEq, false_iff, not_and]
    omega
  · by_cases hlong : 6 < items.length
    · simp only [if_neg hshort, if_pos hlong, reduceCtorEq, false_iff, not_and]
      omega
    · rw [if_neg hshort, if_neg hlong]
      exact (and_iff_right (by omega)).symm

/-- Six items are a value for each member. -/
theorem exists_values {items : List Json} (h : items.length = 6) :
    ∃ values : Field → Json, items = Field.all.map values := by
  match items, h with
  | [title, date, start, finish, color, note], _ =>
    refine ⟨fun field => match field with
      | .title => title
      | .date => date
      | .start => start
      | .finish => finish
      | .color => color
      | .note => note, rfl⟩

/-- CORRECT: an array is a draft iff its items are six texts that spell it in order. -/
theorem ofJson_array_iff (items : List Json) (d : Draft) :
    ofJson (.array items) = .ok d ↔
      (∃ texts : Field → String, items = Field.all.map (fun field => .string (texts field)) ∧
        ∀ field, Spelled d field (texts field)) ∧ d.fault? = none := by
  have hpairs : ∀ values : Field → Json, ((Field.all.zip (Field.all.map values)).map
      fun item => (item.1.key, item.2)) = Field.all.map fun field => (field.key, values field) :=
    fun values => rfl
  have hmem : ∀ (values : Field → Json) (field : Field) value,
      (field.key, value) ∈ ((Field.all.zip (Field.all.map values)).map
        fun item => (item.1.key, item.2)) ↔ value = values field := by
    intro values field value
    rw [hpairs, List.mem_map]
    constructor
    · rintro ⟨other, -, heq⟩
      obtain ⟨hkey, rfl⟩ := Prod.mk.inj heq
      rw [Field.key_injective hkey]
    · rintro rfl
      exact ⟨field, field.mem_all, rfl⟩
  have hone : ∀ (values : Field → Json) (field : Field) v w, _ → _ → v = w :=
    fun values field v w hv hw => ((hmem values field v).1 hv).trans ((hmem values field w).1 hw).symm
  rw [ofJson_array_eq_ok]
  constructor
  · rintro ⟨hlength, h⟩
    obtain ⟨values, rfl⟩ := exists_values hlength
    obtain ⟨hspelled, hvalid⟩ := (Slots.toDraft_foldlM_iff (hone values) d).1 h
    choose texts htexts hspelled using hspelled
    refine ⟨⟨texts, ?_, hspelled⟩, hvalid⟩
    exact List.map_congr_left fun field _ => ((hmem values field _).1 (htexts field)).symm
  · rintro ⟨⟨texts, rfl, hspelled⟩, hvalid⟩
    refine ⟨rfl, (Slots.toDraft_foldlM_iff (hone _) d).2 ⟨?_, hvalid⟩⟩
    intro field
    exact ⟨texts field, (hmem _ field _).2 rfl, hspelled field⟩

end Agenda.Draft
