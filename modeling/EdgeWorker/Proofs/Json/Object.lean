import EdgeWorker.Json.Basic
import EdgeWorker.Proofs.Keyed
import Mathlib.Data.String.Basic

/-!
Objects by their members.

* `member?_ofMembers` — of the members that an object is made of, the last one of a name counts;
* `ofMembers_of_pairwise` — members in the order of their names make up an object as they are;
* `Value.Holds` — an object with these members and no others (`holds_ofMembers`).
-/

namespace EdgeWorker.Json

variable {key : String} {v : Value} {ms : List (String × Value)}

/-! ### Setting members -/

/-- A member that is set is the one of its name, and all others stay. -/
theorem lookup_insertMember (key l : String) (v : Value) (ms : List (String × Value)) :
    (Value.insertMember key v ms).lookup l = if l = key then some v else ms.lookup l := by
  induction ms with
  | nil => rw [Value.insertMember, Keyed.lookup_cons_eq]
  | cons m ms ih =>
    obtain ⟨k, x⟩ := m
    rw [Value.insertMember]
    by_cases hk : key = k
    · subst hk
      rw [if_pos rfl, Keyed.lookup_cons_eq, Keyed.lookup_cons_eq]
      by_cases h : l = key <;> simp [h]
    · rw [if_neg hk]
      split
      · rw [Keyed.lookup_cons_eq]
      · rw [Keyed.lookup_cons_eq, ih, Keyed.lookup_cons_eq]
        by_cases h : l = k
        · subst h
          rw [if_pos rfl, if_pos rfl, if_neg (Ne.symm hk)]
        · rw [if_neg h, if_neg h]

/-- Members are set one after another. -/
theorem ofMembers_eq (ms : List (String × Value)) :
    Value.ofMembers ms = .object (ms.foldl (fun ms m => Value.insertMember m.1 m.2 ms) []) := rfl

/-- Of members of one name the last one counts. -/
theorem member?_ofMembers (ms : List (String × Value)) (l : String) :
    (Value.ofMembers ms).member? l = ms.reverse.lookup l := by
  have hfold : ∀ acc : List (String × Value),
      (ms.foldl (fun ms m => Value.insertMember m.1 m.2 ms) acc).lookup l = (ms.reverse.lookup l).or (acc.lookup l) := by
    induction ms with
    | nil => exact fun acc => rfl
    | cons m ms ih =>
      intro acc
      rw [List.foldl_cons, ih, List.reverse_cons, List.lookup_append, lookup_insertMember, Keyed.lookup_cons_eq]
      by_cases h : l = m.1 <;> simp [h]
  rw [ofMembers_eq, Value.member?, hfold, List.lookup_nil, Option.or_none]

theorem insertMember_of_forall_lt {key : String} {v : Value} {ms : List (String × Value)} (h : ∀ m ∈ ms, m.1 < key) :
    Value.insertMember key v ms = ms ++ [(key, v)] := by
  induction ms with
  | nil => rfl
  | cons m ms ih =>
    have hm : m.1 < key := h m List.mem_cons_self
    rw [Value.insertMember, if_neg (ne_of_gt hm), if_neg (lt_asymm hm), ih fun x hx => h x (List.mem_cons_of_mem _ hx)]
    rfl

/-- Members in the order of their names make up an object as they are. -/
theorem ofMembers_of_pairwise {ms : List (String × Value)} (h : ms.Pairwise fun a b => a.1 < b.1) :
    Value.ofMembers ms = .object ms := by
  have hfold : ∀ acc : List (String × Value), (acc ++ ms).Pairwise (fun a b => a.1 < b.1) →
      ms.foldl (fun ms m => Value.insertMember m.1 m.2 ms) acc = acc ++ ms := by
    clear h
    induction ms with
    | nil => exact fun acc _ => (List.append_nil acc).symm
    | cons m ms ih =>
      intro acc hacc
      have hm : ∀ x ∈ acc, x.1 < m.1 := fun x hx => (List.pairwise_append.1 hacc).2.2 x hx m List.mem_cons_self
      have hinsert : Value.insertMember m.1 m.2 acc = acc ++ [m] := insertMember_of_forall_lt hm
      rw [List.append_cons] at hacc ⊢
      rw [List.foldl_cons, hinsert, ih _ hacc]
  rw [ofMembers_eq, hfold [] h, List.nil_append]

theorem mem_of_mem_insertMember {m : String × Value} (h : m ∈ Value.insertMember key v ms) : m = (key, v) ∨ m ∈ ms := by
  induction ms with
  | nil => exact .inl (List.mem_singleton.1 h)
  | cons m' ms ih =>
    rw [Value.insertMember] at h
    split at h
    · exact (List.mem_cons.1 h).imp_right (List.mem_cons_of_mem _)
    · split at h
      · exact List.mem_cons.1 h
      · rcases List.mem_cons.1 h with rfl | h
        · exact .inr List.mem_cons_self
        · exact (ih h).imp_right (List.mem_cons_of_mem _)

/-- Members in the order of their names stay in this order when one is set. -/
theorem pairwise_insertMember (h : ms.Pairwise fun a b => a.1 < b.1) :
    (Value.insertMember key v ms).Pairwise fun a b => a.1 < b.1 := by
  induction ms with
  | nil => exact List.pairwise_singleton _ _
  | cons m ms ih =>
    have hm {m' : String × Value} (hm' : m' ∈ ms) : m.1 < m'.1 := List.rel_of_pairwise_cons h hm'
    rw [Value.insertMember]
    split
    · next he => exact h.of_cons.cons fun m' hm' => lt_of_eq_of_lt he (hm hm')
    · next hne =>
      split
      · next hlt =>
        refine h.cons fun m' hm' => ?_
        rcases List.mem_cons.1 hm' with rfl | hm'
        · exact hlt
        · exact hlt.trans (hm hm')
      · next hnlt =>
        have hgt : m.1 < key := lt_of_le_of_ne (not_lt.1 hnlt) (Ne.symm hne)
        refine (ih h.of_cons).cons fun m' hm' => ?_
        rcases mem_of_mem_insertMember hm' with rfl | hm'
        · exact hgt
        · exact hm hm'

theorem mem_of_mem_foldl_insertMember {m : String × Value} {acc : List (String × Value)}
    (h : m ∈ ms.foldl (fun ms m => Value.insertMember m.1 m.2 ms) acc) : m ∈ ms ∨ m ∈ acc := by
  induction ms generalizing acc with
  | nil => exact .inr h
  | cons m' ms ih =>
    rcases ih h with h | h
    · exact .inl (List.mem_cons_of_mem _ h)
    · rcases mem_of_mem_insertMember h with rfl | h
      · exact .inl List.mem_cons_self
      · exact .inr h

theorem pairwise_foldl_insertMember (ms : List (String × Value)) {acc : List (String × Value)}
    (h : acc.Pairwise fun a b => a.1 < b.1) :
    (ms.foldl (fun ms m => Value.insertMember m.1 m.2 ms) acc).Pairwise fun a b => a.1 < b.1 := by
  induction ms generalizing acc with
  | nil => exact h
  | cons m ms ih => exact ih (pairwise_insertMember h)

/-! ### Objects -/

/-- An object with these members and no others, in the order of their names. -/
def Value.Holds (v : Value) (has : String → Value → Prop) : Prop :=
  ∃ ms, v = .object ms ∧ (ms.Pairwise fun a b => a.1 < b.1) ∧ ∀ k x, (k, x) ∈ ms ↔ has k x

theorem mem_iff_lookup_of_nodup (h : (ms.map Prod.fst).Nodup) {x : Value} : (key, x) ∈ ms ↔ ms.lookup key = some x := by
  refine ⟨Keyed.lookup_of_mem h, fun hx => ?_⟩
  obtain ⟨before, after, rfl, -⟩ := List.lookup_eq_some_iff.1 hx
  exact List.mem_append_right _ List.mem_cons_self

theorem nodup_of_pairwise (h : ms.Pairwise fun a b => a.1 < b.1) : (ms.map Prod.fst).Nodup :=
  List.pairwise_map.2 (h.imp ne_of_lt)

theorem mem_iff_lookup (h : ms.Pairwise fun a b => a.1 < b.1) {x : Value} : (key, x) ∈ ms ↔ ms.lookup key = some x :=
  mem_iff_lookup_of_nodup (nodup_of_pairwise h)

/-- The object of members has the last one of every name. -/
theorem holds_ofMembers (ms : List (String × Value)) : (Value.ofMembers ms).Holds fun k x => ms.reverse.lookup k = some x := by
  have hpairwise := pairwise_foldl_insertMember ms List.Pairwise.nil
  refine ⟨_, ofMembers_eq ms, hpairwise, fun k x => ?_⟩
  rw [mem_iff_lookup hpairwise]
  show (Value.ofMembers ms).member? k = some x ↔ _
  rw [member?_ofMembers]

namespace Value.Holds

variable {has has' : String → Value → Prop}

theorem congr (h : v.Holds has) (hhas : ∀ k x, has k x ↔ has' k x) : v.Holds has' := by
  obtain ⟨ms, he, hpairwise, hms⟩ := h
  exact ⟨ms, he, hpairwise, fun k x => (hms k x).trans (hhas k x)⟩

theorem member?_eq_some (h : v.Holds has) {x : Value} : v.member? key = some x ↔ has key x := by
  obtain ⟨ms, rfl, hpairwise, hms⟩ := h
  exact (mem_iff_lookup hpairwise).symm.trans (hms key x)

end Value.Holds

/-- Members with different names are the members of their object, in any order. -/
theorem holds_ofMembers_of_nodup (h : (ms.map Prod.fst).Nodup) : (Value.ofMembers ms).Holds fun k x => (k, x) ∈ ms :=
  (holds_ofMembers ms).congr fun k x => by rw [Keyed.lookup_reverse h, mem_iff_lookup_of_nodup h]

end EdgeWorker.Json
