import EdgeWorker.Cache.Persistent

/-!
The keys under which generations are stored.

* `Apart g h` — neither name goes on, behind a colon, from the other one;
* `entryKey_eq_indexKey`, `eq_or_of_entryKey_eq` — the keys of different generations meet only if their names are not
  apart; names without a colon are (`apart_of_unmarked`);
* `Separate names` — different names among these are apart;
* `Owns g k` — the keys of a generation.
-/

namespace EdgeWorker.Cache.Persistent

variable {g h u v : String}

/-- Different names neither of which is the other one with a colon and more behind it. -/
def Apart (g h : String) : Prop := g ≠ h ∧ ∀ s, h ≠ g ++ ":" ++ s ∧ g ≠ h ++ ":" ++ s

/-- A name without a colon. -/
def Unmarked (g : String) : Prop := ':' ∉ g.toList

instance : DecidablePred Unmarked := fun _ => inferInstanceAs (Decidable (¬ _))

theorem apart_of_unmarked (hg : Unmarked g) (hh : Unmarked h) (hne : g ≠ h) : Apart g h := by
  refine ⟨hne, fun s => ⟨?_, ?_⟩⟩
  · rintro rfl
    exact hh (by simp)
  · rintro rfl
    exact hg (by simp)

/-- Different names among these are apart. -/
def Separate (names : String → Prop) : Prop := ∀ g h, names g → names h → g ≠ h → Apart g h

theorem separate_unmarked : Separate Unmarked := fun _ _ => apart_of_unmarked

theorem separate_single (g : String) : Separate (· = g) := by
  rintro _ _ rfl rfl hne
  exact absurd rfl hne

theorem toList_indexKey (g : String) : (indexKey g).toList = "hx:gen:".toList ++ g.toList := String.toList_append

theorem toList_entryKey (g u : String) :
    (entryKey g u).toList = "hx:gen:".toList ++ (g.toList ++ ':' :: u.toList) := by
  simp [entryKey]

theorem indexKey_ne_generationsKey (g : String) : indexKey g ≠ generationsKey := by
  intro he
  have h := congrArg String.toList he
  rw [toList_indexKey] at h
  simp [generationsKey] at h

theorem entryKey_ne_generationsKey (g u : String) : entryKey g u ≠ generationsKey := by
  intro he
  have h := congrArg String.toList he
  rw [toList_entryKey] at h
  simp [generationsKey] at h

theorem indexKey_inj : indexKey g = indexKey h ↔ g = h := by
  rw [← String.toList_inj, toList_indexKey, toList_indexKey, List.append_cancel_left_eq, String.toList_inj]

theorem entryKey_eq_indexKey : entryKey g u = indexKey h ↔ h = g ++ ":" ++ u := by
  rw [← String.toList_inj, toList_entryKey, toList_indexKey, List.append_cancel_left_eq, ← String.toList_inj]
  simp [eq_comm]

/-- Two entries under one key: the same one, or entries of generations one of which has the name of the other one with
a colon and more behind it. -/
theorem eq_or_of_entryKey_eq (he : entryKey g u = entryKey h v) :
    g = h ∧ u = v ∨ (∃ s, h = g ++ ":" ++ s) ∨ ∃ s, g = h ++ ":" ++ s := by
  rw [← String.toList_inj, toList_entryKey, toList_entryKey, List.append_cancel_left_eq,
    List.append_eq_append_iff] at he
  rcases he with ⟨_ | ⟨c, s⟩, hh, hu⟩ | ⟨_ | ⟨c, s⟩, hg, hv⟩
  · exact .inl ⟨String.toList_inj.1 (by simpa using hh.symm), String.toList_inj.1 (by simpa using hu)⟩
  · rw [List.cons_append, List.cons.injEq] at hu
    obtain ⟨rfl, -⟩ := hu
    exact .inr (.inl ⟨String.ofList s, String.toList_inj.1 (by simp [hh])⟩)
  · exact .inl ⟨String.toList_inj.1 (by simpa using hg), String.toList_inj.1 (by simpa using hv.symm)⟩
  · rw [List.cons_append, List.cons.injEq] at hv
    obtain ⟨rfl, -⟩ := hv
    exact .inr (.inr ⟨String.ofList s, String.toList_inj.1 (by simp [hg])⟩)

theorem entryKey_inj : entryKey g u = entryKey g v ↔ u = v := by
  rw [← String.toList_inj, toList_entryKey, toList_entryKey, List.append_cancel_left_eq, List.append_cancel_left_eq,
    List.cons.injEq, String.toList_inj]
  simp

theorem entryKey_ne_indexKey_self (g u : String) : entryKey g u ≠ indexKey g := by
  rw [Ne, entryKey_eq_indexKey, ← String.toList_inj]
  intro he
  have := congrArg List.length he
  simp at this

/-! ### The keys of a generation -/

/-- The keys of a generation: that of its index, and those of its entries. -/
def Owns (g key : String) : Prop := key = indexKey g ∨ ∃ u, key = entryKey g u

theorem Owns.ne_generationsKey {key : String} (ho : Owns g key) : key ≠ generationsKey := by
  rcases ho with rfl | ⟨u, rfl⟩
  · exact indexKey_ne_generationsKey g
  · exact entryKey_ne_generationsKey g u

/-- Generations whose names are apart have no key in common. -/
theorem Apart.not_owns (ha : Apart g h) {key : String} (hg : Owns g key) : ¬ Owns h key := by
  rcases hg with rfl | ⟨u, rfl⟩ <;> rintro (he | ⟨v, he⟩)
  · exact ha.1 (indexKey_inj.1 he)
  · exact (ha.2 v).2 (entryKey_eq_indexKey.1 he.symm)
  · exact (ha.2 u).1 (entryKey_eq_indexKey.1 he)
  · rcases eq_or_of_entryKey_eq he with ⟨hgh, -⟩ | ⟨s, hs⟩ | ⟨s, hs⟩
    · exact ha.1 hgh
    · exact (ha.2 s).1 hs
    · exact (ha.2 s).2 hs

end EdgeWorker.Cache.Persistent
