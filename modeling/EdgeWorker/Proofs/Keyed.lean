import EdgeWorker.Keyed

/-!
What is found in a map after it was changed (`get?_alter`) or filtered (`get?_filterMap`), and when two maps are equal
(`eq_of_get?_eq`).
-/

namespace EdgeWorker.Keyed

variable {κ α : Type} [DecidableEq κ]

theorem lookup_cons_eq (k l : κ) (v : α) (es : List (κ × α)) :
    ((k, v) :: es).lookup l = if l = k then some v else es.lookup l := by
  by_cases h : l = k
  · subst h; simp
  · simp [List.lookup_cons, h, beq_false_of_ne h]

theorem lookup_of_not_mem {es : List (κ × α)} {k : κ} (h : k ∉ es.map Prod.fst) : es.lookup k = none :=
  List.lookup_eq_none_iff.2 fun _ hp => bne_iff_ne.2 fun he => h (he ▸ List.mem_map_of_mem hp)

/-- If no key is repeated, every entry is found under its key. -/
theorem lookup_of_mem {es : List (κ × α)} (h : (es.map Prod.fst).Nodup) {e : κ × α} (he : e ∈ es) :
    es.lookup e.1 = some e.2 := by
  induction es with
  | nil => cases he
  | cons e' es ih =>
    rw [List.map_cons, List.nodup_cons] at h
    rw [lookup_cons_eq]
    rcases List.mem_cons.1 he with rfl | he
    · exact if_pos rfl
    · rw [if_neg fun hk : e.1 = e'.1 => h.1 (hk ▸ List.mem_map_of_mem he), ih h.2 he]

/-- If no key is repeated, the order does not matter. -/
theorem lookup_reverse {es : List (κ × α)} (h : (es.map Prod.fst).Nodup) (k : κ) : es.reverse.lookup k = es.lookup k := by
  induction es with
  | nil => rfl
  | cons e es ih =>
    rw [List.map_cons, List.nodup_cons] at h
    rw [List.reverse_cons, List.lookup_append, ih h.2, lookup_cons_eq, lookup_cons_eq]
    by_cases hk : k = e.1
    · rw [if_pos hk, if_pos hk, hk, lookup_of_not_mem h.1, Option.none_or]
    · rw [if_neg hk, if_neg hk, List.lookup_nil, Option.or_none]

theorem lookup_map_snd {β : Type} (f : α → β) (es : List (κ × α)) (k : κ) :
    (es.map fun e => (e.1, f e.2)).lookup k = (es.lookup k).map f := by
  induction es with
  | nil => rfl
  | cons e es ih =>
    rw [List.map_cons, lookup_cons_eq, lookup_cons_eq, ih]
    split <;> rfl

theorem lookup_alterEntries (k l : κ) (f : Option α → α) (es : List (κ × α)) :
    (alterEntries k f es).lookup l = if l = k then some (f (es.lookup k)) else es.lookup l := by
  induction es with
  | nil => simp [alterEntries, lookup_cons_eq]
  | cons e rest ih =>
    obtain ⟨m, v⟩ := e
    simp only [alterEntries]
    by_cases hm : m = k
    · subst hm
      by_cases h : l = m <;> simp [lookup_cons_eq, h]
    · rw [if_neg hm, lookup_cons_eq, ih, lookup_cons_eq, lookup_cons_eq, if_neg (Ne.symm hm)]
      by_cases h : l = m
      · simp [h, hm]
      · simp [h]

/-- A change of one key is seen there and nowhere else. -/
theorem get?_alter (m : Keyed κ α) (k l : κ) (f : Option α → α) :
    (m.alter k f).get? l = if l = k then some (f (m.get? k)) else m.get? l :=
  lookup_alterEntries k l f m.entries

@[simp] theorem get?_put_self (m : Keyed κ α) (k : κ) (v : α) : (m.put k v).get? k = some v := by
  simp [put, get?_alter]

theorem get?_put_of_ne (m : Keyed κ α) {k l : κ} (v : α) (h : l ≠ k) : (m.put k v).get? l = m.get? l := by
  simp [put, get?_alter, h]

theorem get?_putAll (m : Keyed κ α) (es : List (κ × α)) (k : κ) :
    (m.putAll es).get? k = ((ofList es).get? k).or (m.get? k) := by
  induction es generalizing m with
  | nil => rfl
  | cons e es ih =>
    rw [show m.putAll (e :: es) = (m.put e.1 e.2).putAll es from rfl,
      show ofList (e :: es) = ((empty : Keyed κ α).put e.1 e.2).putAll es from rfl, ih, ih, Option.or_assoc]
    congr 1
    by_cases h : k = e.1
    · rw [h, get?_put_self, get?_put_self, Option.some_or]
    · rw [get?_put_of_ne _ _ h, get?_put_of_ne _ _ h]
      rfl

theorem get?_ofList_eq_none {es : List (κ × α)} {k : κ} (h : k ∉ es.map Prod.fst) : (ofList es).get? k = none := by
  induction es with
  | nil => rfl
  | cons e es ih =>
    rw [List.map_cons, List.mem_cons, not_or] at h
    rw [show ofList (e :: es) = ((empty : Keyed κ α).put e.1 e.2).putAll es from rfl, get?_putAll, ih h.2, Option.none_or,
      get?_put_of_ne _ _ h.1]
    rfl

/-- What is found was put. -/
theorem mem_of_get?_ofList {es : List (κ × α)} {k : κ} {v : α} (h : (ofList es).get? k = some v) : (k, v) ∈ es := by
  induction es with
  | nil => cases h
  | cons e es ih =>
    rw [show ofList (e :: es) = ((empty : Keyed κ α).put e.1 e.2).putAll es from rfl, get?_putAll, Option.or_eq_some_iff] at h
    rcases h with h | ⟨-, h⟩
    · exact List.mem_cons_of_mem _ (ih h)
    · by_cases hk : k = e.1
      · subst hk
        rw [get?_put_self] at h
        cases h
        exact List.mem_cons_self
      · rw [get?_put_of_ne _ _ hk] at h
        cases h

/-- The last value of a key is found. -/
theorem get?_ofList_of_last {es : List (κ × α)} {i : Nat} {k : κ} {v : α} (hi : es[i]? = some (k, v))
    (hlast : ∀ j e, i < j → es[j]? = some e → e.1 ≠ k) : (ofList es).get? k = some v := by
  obtain ⟨hlt, he⟩ := List.getElem?_eq_some_iff.1 hi
  have hsplit : es = es.take i ++ (k, v) :: es.drop (i + 1) := by
    rw [← he, List.getElem_cons_drop hlt, List.take_append_drop]
  have hnone : (ofList (es.drop (i + 1))).get? k = none := by
    refine get?_ofList_eq_none fun hk => ?_
    obtain ⟨e, hmem, rfl⟩ := List.mem_map.1 hk
    obtain ⟨j, hj⟩ := List.mem_iff_getElem?.1 hmem
    rw [List.getElem?_drop] at hj
    exact hlast _ e (by omega) hj rfl
  have hput : ofList es = ((ofList (es.take i)).put k v).putAll (es.drop (i + 1)) :=
    (congrArg ofList hsplit).trans List.foldl_append
  rw [hput, get?_putAll, hnone, get?_put_self, Option.none_or]

theorem get?_erase (m : Keyed κ α) (k l : κ) : (m.erase k).get? l = if l = k then none else m.get? l := by
  show (m.entries.filter fun e => e.1 ≠ k).lookup l = if l = k then none else m.entries.lookup l
  induction m.entries with
  | nil => simp
  | cons e es ih =>
    obtain ⟨j, v⟩ := e
    by_cases hj : j = k
    · rw [List.filter_cons_of_neg (by simp [hj]), ih, lookup_cons_eq]
      by_cases h : l = k
      · simp [h]
      · rw [if_neg h, if_neg h, if_neg fun he => h (he.trans hj)]
    · rw [List.filter_cons_of_pos (by simp [hj]), lookup_cons_eq, lookup_cons_eq, ih]
      by_cases h : l = k
      · rw [if_pos h, if_pos h, if_neg fun he => hj (he.symm.trans h)]
      · rw [if_neg h, if_neg h]

/-! ### Keys -/

theorem mem_keys {m : Keyed κ α} {k : κ} : k ∈ m.keys ↔ (m.get? k).isSome := by
  show k ∈ m.entries.map Prod.fst ↔ (m.entries.lookup k).isSome
  induction m.entries with
  | nil => simp
  | cons e es ih =>
    obtain ⟨j, v⟩ := e
    rw [List.map_cons, List.mem_cons, lookup_cons_eq, ih]
    by_cases h : k = j <;> simp [h]

theorem map_fst_alterEntries (k : κ) (f : Option α → α) (es : List (κ × α)) :
    (alterEntries k f es).map Prod.fst =
      if k ∈ es.map Prod.fst then es.map Prod.fst else es.map Prod.fst ++ [k] := by
  induction es with
  | nil => rfl
  | cons e es ih =>
    obtain ⟨j, v⟩ := e
    simp only [alterEntries]
    by_cases hj : j = k
    · simp [hj]
    · rw [if_neg hj, List.map_cons, List.map_cons, ih]
      by_cases h : k ∈ es.map Prod.fst
      · rw [if_pos h, if_pos (List.mem_cons_of_mem _ h)]
      · rw [if_neg h, if_neg fun hm => (List.mem_cons.1 hm).elim (fun he => hj he.symm) h, List.cons_append]

theorem alterEntries_append {k : κ} {f : Option α → α} {es es' : List (κ × α)} (h : k ∉ es.map Prod.fst) :
    alterEntries k f (es ++ es') = es ++ alterEntries k f es' := by
  induction es with
  | nil => rfl
  | cons e es ih =>
    rw [List.map_cons, List.mem_cons, not_or] at h
    rw [List.cons_append, alterEntries, if_neg (Ne.symm h.1), ih h.2, List.cons_append]

/-- A key that is new comes last. -/
theorem keys_alter (m : Keyed κ α) (k : κ) (f : Option α → α) :
    (m.alter k f).keys = if k ∈ m.keys then m.keys else m.keys ++ [k] := map_fst_alterEntries k f m.entries

theorem mem_keys_put {m : Keyed κ α} {k l : κ} {v : α} : l ∈ (m.put k v).keys ↔ l ∈ m.keys ∨ l = k := by
  rw [put, keys_alter]
  split
  · next h => exact ⟨.inl, fun hl => hl.elim id fun he => he ▸ h⟩
  · rw [List.mem_append, List.mem_singleton]

theorem mem_keys_putAll {m : Keyed κ α} {es : List (κ × α)} {k : κ} :
    k ∈ (m.putAll es).keys ↔ k ∈ m.keys ∨ k ∈ es.map Prod.fst := by
  induction es generalizing m with
  | nil => simp [putAll]
  | cons e es ih =>
    rw [show m.putAll (e :: es) = (m.put e.1 e.2).putAll es from rfl, ih, mem_keys_put, List.map_cons, List.mem_cons, or_assoc]

/-- Keys that are there keep their places. -/
theorem keys_putAll_of_forall_mem {m : Keyed κ α} {es : List (κ × α)} (h : ∀ e ∈ es, e.1 ∈ m.keys) :
    (m.putAll es).keys = m.keys := by
  induction es generalizing m with
  | nil => rfl
  | cons e es ih =>
    have hput : (m.put e.1 e.2).keys = m.keys := by rw [put, keys_alter, if_pos (h e List.mem_cons_self)]
    rw [show m.putAll (e :: es) = (m.put e.1 e.2).putAll es from rfl, ih, hput]
    rw [hput]
    exact fun x hx => h x (List.mem_cons_of_mem _ hx)

theorem keys_erase (m : Keyed κ α) (k : κ) : (m.erase k).keys = m.keys.filter (· ≠ k) := by
  show (m.entries.filter fun e => e.1 ≠ k).map Prod.fst = (m.entries.map Prod.fst).filter (· ≠ k)
  rw [List.filter_map]
  rfl

theorem erase_of_not_mem {m : Keyed κ α} {k : κ} (h : k ∉ m.keys) : m.erase k = m := by
  have hfilter : (m.entries.filter fun e => e.1 ≠ k) = m.entries :=
    List.filter_eq_self.2 fun e he => decide_eq_true fun hk => h (hk ▸ List.mem_map_of_mem he)
  rw [erase]
  congr 1

/-! ### Values changed or left out -/

variable {β : Type} {f : α → Option β}

omit [DecidableEq κ] in
/-- What is left of keys when values are left out. -/
theorem map_fst_filterMap (es : List (κ × α)) : (es.filterMap fun e => (f e.2).map (e.1, ·)).map Prod.fst =
    (es.filter fun e => (f e.2).isSome).map Prod.fst := by
  induction es with
  | nil => rfl
  | cons e es ih =>
    rw [List.filterMap_cons, List.filter_cons]
    cases f e.2 with
    | none => exact ih
    | some v => exact congrArg (e.1 :: ·) ih

/-- The map with its values changed; those of which nothing is made are left out with their keys. -/
def filterMap (f : α → Option β) (m : Keyed κ α) : Keyed κ β where
  entries := m.entries.filterMap fun e => (f e.2).map (e.1, ·)
  distinct := by
    rw [map_fst_filterMap]
    exact m.distinct.sublist (List.filter_sublist.map Prod.fst)

theorem lookup_filterMap {es : List (κ × α)} (h : (es.map Prod.fst).Nodup) (k : κ) :
    (es.filterMap fun e => (f e.2).map (e.1, ·)).lookup k = (es.lookup k).bind f := by
  induction es with
  | nil => rfl
  | cons e es ih =>
    obtain ⟨l, v⟩ := e
    rw [List.map_cons, List.nodup_cons] at h
    rw [List.filterMap_cons, lookup_cons_eq]
    by_cases hk : k = l
    · subst hk
      rw [if_pos rfl, Option.bind_some]
      cases f v with
      | none => exact (ih h.2).trans (by rw [lookup_of_not_mem h.1]; rfl)
      | some w => exact List.lookup_cons_self
    · rw [if_neg hk]
      cases f v with
      | none => exact ih h.2
      | some w =>
        dsimp only [Option.map_some]
        rw [lookup_cons_eq, if_neg hk, ih h.2]

theorem get?_filterMap (m : Keyed κ α) (k : κ) : (m.filterMap f).get? k = (m.get? k).bind f := lookup_filterMap m.distinct k

theorem keys_filterMap (m : Keyed κ α) : (m.filterMap f).keys = m.keys.filter fun k => ((m.get? k).bind f).isSome := by
  show (m.entries.filterMap fun e => (f e.2).map (e.1, ·)).map Prod.fst = (m.entries.map Prod.fst).filter _
  rw [map_fst_filterMap, List.filter_map]
  refine congrArg (List.map Prod.fst) (List.filter_congr fun e he => ?_)
  rw [Function.comp_apply, get?, lookup_of_mem m.distinct he, Option.bind_some]

/-! ### Equal maps -/

omit [DecidableEq κ] in
theorem eq_of_entries {m n : Keyed κ α} (h : m.entries = n.entries) : m = n := by
  cases m
  cases n
  cases h
  rfl

theorem entries_eq_of_lookup_eq {es fs : List (κ × α)} (hes : (es.map Prod.fst).Nodup) (hkeys : es.map Prod.fst = fs.map Prod.fst)
    (hlookup : ∀ k, es.lookup k = fs.lookup k) : es = fs := by
  induction es generalizing fs with
  | nil => exact (List.map_eq_nil_iff.1 hkeys.symm).symm
  | cons e es ih =>
    cases fs with
    | nil => cases hkeys
    | cons f fs =>
      obtain ⟨k, v⟩ := e
      obtain ⟨l, w⟩ := f
      rw [List.map_cons, List.map_cons, List.cons.injEq] at hkeys
      rw [List.map_cons, List.nodup_cons] at hes
      obtain ⟨rfl, hrest⟩ := hkeys
      have hvalue : v = w := by simpa using hlookup k
      rw [hvalue, ih hes.2 hrest fun l => ?_]
      by_cases h : l = k
      · rw [h, lookup_of_not_mem hes.1, lookup_of_not_mem (hrest ▸ hes.1)]
      · have hl := hlookup l
        rwa [lookup_cons_eq, lookup_cons_eq, if_neg h, if_neg h] at hl

/-- Maps are equal if they have the same keys in the same order, and the same values. -/
theorem eq_of_get?_eq {m n : Keyed κ α} (hkeys : m.keys = n.keys) (hget : ∀ k, m.get? k = n.get? k) : m = n :=
  eq_of_entries (entries_eq_of_lookup_eq m.distinct hkeys hget)

/-- To put the same entries again changes nothing. -/
theorem putAll_putAll (m : Keyed κ α) (es : List (κ × α)) : (m.putAll es).putAll es = m.putAll es := by
  refine eq_of_get?_eq (keys_putAll_of_forall_mem fun e he => mem_keys_putAll.2 (.inr (List.mem_map_of_mem he))) fun k => ?_
  rw [get?_putAll, get?_putAll, ← Option.or_assoc, Option.or_self]

end EdgeWorker.Keyed
