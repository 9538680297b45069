import Agenda.Json.Value
import Mathlib.Data.List.Induction
import Mathlib.Data.String.Basic

/-!
Members of an object by key. Sorting the members keeps one for each key, the last one of the text,
so that the sorted members are the graph of `get?`; and where a key stands only once, it does not
matter which of its members is taken.
-/

namespace Agenda.Json

variable {α : Type}

/-- The keys of members are in increasing order, each once. -/
def SortedKeys (members : List (String × α)) : Prop := (members.map (·.1)).Pairwise (· < ·)

theorem key_mem_insertMember {key k : String} {value : α} {members : List (String × α)}
    (h : k ∈ (insertMember key value members).map (·.1)) :
    k = key ∨ k ∈ members.map (·.1) := by
  induction members with
  | nil => simpa [insertMember] using h
  | cons member members ih =>
    unfold insertMember at h
    split at h
    · simpa using h
    · split at h
      · rename_i heq
        rw [List.map_cons, List.mem_cons] at h ⊢
        rcases h with h | h
        · exact Or.inl h
        · exact Or.inr (Or.inr h)
      · rw [List.map_cons, List.mem_cons] at h ⊢
        rcases h with h | h
        · exact Or.inr (Or.inl h)
        · rcases ih h with h | h
          · exact Or.inl h
          · exact Or.inr (Or.inr h)

/-- Putting a member into its place keeps the order. -/
theorem sortedKeys_insertMember {key : String} {value : α} {members : List (String × α)}
    (h : SortedKeys members) : SortedKeys (insertMember key value members) := by
  induction members with
  | nil => simp [SortedKeys, insertMember]
  | cons member members ih =>
    obtain ⟨hfirst, hrest⟩ := List.pairwise_cons.1 h
    unfold insertMember
    split
    · rename_i hlt
      refine List.pairwise_cons.2 ⟨?_, h⟩
      intro k hk
      rcases List.mem_cons.1 hk with rfl | hk
      · exact hlt
      · exact lt_trans hlt (hfirst k hk)
    · rename_i hge
      split
      · rename_i heq
        subst heq
        exact List.pairwise_cons.2 ⟨hfirst, hrest⟩
      · rename_i hne
        refine List.pairwise_cons.2 ⟨?_, ih hrest⟩
        intro k hk
        rcases key_mem_insertMember hk with rfl | hk
        · exact lt_of_le_of_ne (not_lt.1 hge) (Ne.symm hne)
        · exact hfirst k hk

/-- The member that is put in stands for its key, and all others stay. -/
theorem mem_insertMember {key : String} {value : α} {members : List (String × α)}
    (h : SortedKeys members) (member : String × α) :
    member ∈ insertMember key value members ↔
      member = (key, value) ∨ (member.1 ≠ key ∧ member ∈ members) := by
  induction members with
  | nil => simp [insertMember]
  | cons first members ih =>
    obtain ⟨hfirst, hrest⟩ := List.pairwise_cons.1 h
    have hlater : ∀ m ∈ members, first.1 < m.1 := fun m hm => hfirst m.1 (List.mem_map_of_mem hm)
    unfold insertMember
    split
    · rename_i hlt
      have hne : ∀ m ∈ first :: members, m.1 ≠ key := by
        intro m hm
        rcases List.mem_cons.1 hm with rfl | hm
        · exact ne_of_gt hlt
        · exact ne_of_gt (lt_trans hlt (hlater m hm))
      rw [List.mem_cons]
      exact or_congr_right ⟨fun hm => ⟨hne member hm, hm⟩, And.right⟩
    · split
      · rename_i heq
        subst heq
        rw [List.mem_cons, List.mem_cons]
        refine or_congr_right ⟨fun hm => ⟨ne_of_gt (hlater member hm), Or.inr hm⟩, ?_⟩
        rintro ⟨hne, rfl | hm⟩
        · exact absurd rfl hne
        · exact hm
      · rename_i hne
        rw [List.mem_cons, ih hrest, List.mem_cons]
        constructor
        · rintro (rfl | heq | ⟨hkey, hm⟩)
          · exact Or.inr ⟨Ne.symm hne, Or.inl rfl⟩
          · exact Or.inl heq
          · exact Or.inr ⟨hkey, Or.inr hm⟩
        · rintro (heq | ⟨hkey, heq | hm⟩)
          · exact Or.inr (Or.inl heq)
          · exact Or.inl heq
          · exact Or.inr (Or.inr ⟨hkey, hm⟩)

theorem sortMembers_concat (members : List (String × α)) (member : String × α) :
    sortMembers (members ++ [member]) = insertMember member.1 member.2 (sortMembers members) := by
  simp [sortMembers]

theorem sortedKeys_sortMembers (members : List (String × α)) :
    SortedKeys (sortMembers members) := by
  induction members using List.reverseRecOn with
  | nil => exact List.Pairwise.nil
  | append_singleton members member ih =>
    rw [sortMembers_concat]
    exact sortedKeys_insertMember ih

theorem get?_concat (members : List (String × Json)) (member : String × Json) (key : String) :
    (object (members ++ [member])).get? key =
      if member.1 = key then some member.2 else (object members).get? key := by
  by_cases h : member.1 = key <;> simp [get?, h]

/-- The sorted members are the values by key. -/
theorem mem_sortMembers (members : List (String × Json)) (key : String) (value : Json) :
    (key, value) ∈ sortMembers members ↔ (object members).get? key = some value := by
  induction members using List.reverseRecOn with
  | nil => simp [sortMembers, get?]
  | append_singleton members member ih =>
    rw [sortMembers_concat, mem_insertMember (sortedKeys_sortMembers members), ih, get?_concat]
    obtain ⟨k, v⟩ := member
    by_cases h : k = key
    · subst h
      rw [if_pos rfl, Option.some.injEq, eq_comm (a := v)]
      simp
    · rw [if_neg h]
      have hkey : key ≠ k := Ne.symm h
      simp [hkey]

theorem mem_of_get? {members : List (String × Json)} {key : String} {value : Json}
    (h : (object members).get? key = some value) : (key, value) ∈ members := by
  obtain ⟨member, hfind, rfl⟩ := Option.map_eq_some_iff.1 h
  have hmem := List.mem_reverse.1 (List.mem_of_find?_eq_some hfind)
  have hkey : member.1 = key := by simpa using List.find?_some hfind
  rw [← hkey]
  exact hmem

/-- A key that stands at most once has one value only. -/
theorem eq_of_count_le_one {members : List (String × α)} {key : String} {v w : α}
    (honce : (members.map (·.1)).count key ≤ 1) (hv : (key, v) ∈ members)
    (hw : (key, w) ∈ members) : v = w := by
  induction members with
  | nil => cases hv
  | cons member members ih =>
    have hnone : ∀ x : α, (key, x) ∈ members → 0 < (members.map (·.1)).count key :=
      fun x hx => List.count_pos_iff.2 (List.mem_map_of_mem (f := (·.1)) hx)
    rw [List.map_cons, List.count_cons] at honce
    rcases List.mem_cons.1 hv with hfirst | hv'
    · rcases List.mem_cons.1 hw with hw | hw
      · exact (Prod.mk.inj (hfirst.trans hw.symm)).2
      · have hpos := hnone w hw
        rw [← hfirst, if_pos (beq_self_eq_true key)] at honce
        omega
    · rcases List.mem_cons.1 hw with hfirst | hw'
      · have hpos := hnone v hv'
        rw [← hfirst, if_pos (beq_self_eq_true key)] at honce
        omega
      · exact ih (by omega) hv' hw'

/-- A member whose key stands only once is the one that is found. -/
theorem get?_of_mem {members : List (String × Json)} {key : String} {value : Json}
    (honce : (members.map (·.1)).count key ≤ 1) (h : (key, value) ∈ members) :
    (object members).get? key = some value := by
  cases hget : (object members).get? key with
  | none =>
    rw [get?, Option.map_eq_none_iff, List.find?_eq_none] at hget
    exact absurd (by simp) (hget (key, value) (List.mem_reverse.2 h))
  | some found => rw [eq_of_count_le_one honce (mem_of_get? hget) h]

end Agenda.Json
