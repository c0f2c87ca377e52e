import EdgeWorker.Cache.Manifest
import Mathlib.Data.List.Induction

/-!
What a list of paths to be cached holds.

* `mem_insertAll` — the paths that were listed, and those that were added;
* `paths_insertAll` — paths that are added stand behind those that were listed, each once;
* `paths_ofPaths`, `nodup_paths_ofPaths` — of equal paths the first one is listed, and no other;
* `insertAll_insertAll` — to add the same paths again changes nothing.
-/

namespace EdgeWorker.Cache.Manifest

variable {m : Manifest} {paths : List String} {path : String}

theorem paths_insert (m : Manifest) (path : String) :
    (m.insert path).2.paths = if path ∈ m.paths then m.paths else m.paths ++ [path] := by
  unfold insert contains
  by_cases h : path ∈ m.paths
  · rw [if_pos (List.contains_iff_mem.2 h), if_pos h]
  · rw [if_neg (mt List.contains_iff_mem.1 h), if_neg h]

theorem mem_insert {added : String} : path ∈ (m.insert added).2.paths ↔ path ∈ m.paths ∨ path = added := by
  rw [paths_insert]
  split
  · next h => exact ⟨.inl, fun hp => hp.elim id fun he => he ▸ h⟩
  · rw [List.mem_append, List.mem_singleton]

theorem mem_insertAll : path ∈ (m.insertAll paths).paths ↔ path ∈ m.paths ∨ path ∈ paths := by
  unfold insertAll
  induction paths generalizing m with
  | nil => simp
  | cons p paths ih => rw [List.foldl_cons, ih, mem_insert, List.mem_cons, or_assoc]

theorem mem_ofPaths : path ∈ (ofPaths paths).paths ↔ path ∈ paths := by
  unfold ofPaths
  rw [mem_insertAll]
  simp [empty]

theorem nodup_insert (h : m.paths.Nodup) (path : String) : (m.insert path).2.paths.Nodup := by
  rw [paths_insert]
  split
  · exact h
  · next hnot =>
    refine List.nodup_append.2 ⟨h, List.nodup_cons.2 ⟨List.not_mem_nil, List.nodup_nil⟩, fun p hp q hq => ?_⟩
    rw [List.mem_singleton.1 hq]
    exact fun he => hnot (he ▸ hp)

theorem nodup_insertAll (h : m.paths.Nodup) (paths : List String) : (m.insertAll paths).paths.Nodup := by
  unfold insertAll
  induction paths generalizing m with
  | nil => exact h
  | cons p paths ih => exact ih (nodup_insert h p)

theorem nodup_paths_ofPaths (paths : List String) : (ofPaths paths).paths.Nodup := nodup_insertAll List.nodup_nil paths

/-- Paths that are listed are not added. -/
theorem insertAll_eq_self (h : ∀ p ∈ paths, p ∈ m.paths) : m.insertAll paths = m := by
  unfold insertAll
  induction paths with
  | nil => rfl
  | cons p paths ih =>
    have hlisted : m.contains p = true := List.contains_iff_mem.2 (h p List.mem_cons_self)
    have hp : (m.insert p).2 = m := by rw [insert, if_pos hlisted]
    rw [List.foldl_cons, hp]
    exact ih fun q hq => h q (List.mem_cons_of_mem _ hq)

theorem insertAll_insertAll (m : Manifest) (paths : List String) :
    (m.insertAll paths).insertAll paths = m.insertAll paths :=
  insertAll_eq_self fun _ hp => mem_insertAll.2 (.inr hp)

theorem insertAll_append (m : Manifest) (paths more : List String) :
    m.insertAll (paths ++ more) = (m.insertAll paths).insertAll more := List.foldl_append

/-- Paths that are added stand behind those that were listed, each once. -/
theorem paths_insertAll (m : Manifest) (paths : List String) :
    (m.insertAll paths).paths = m.paths ++ (paths.filter (· ∉ m.paths)).eraseDups := by
  induction paths using List.reverseRecOn with
  | nil => exact (List.append_nil _).symm
  | append_singleton paths p ih =>
    have hlast : (m.insertAll (paths ++ [p])).paths = ((m.insertAll paths).insert p).2.paths :=
      congrArg Manifest.paths (insertAll_append m paths [p])
    rw [hlast, paths_insert, ih, List.filter_append]
    by_cases hm : p ∈ m.paths
    · rw [if_pos (List.mem_append_left _ hm)]
      simp [hm]
    · rw [show [p].filter (· ∉ m.paths) = [p] by simp [hm], List.eraseDups_append]
      by_cases h : p ∈ paths
      · rw [if_pos (List.mem_append_right _ (List.mem_eraseDups.2 (List.mem_filter.2 ⟨h, decide_eq_true hm⟩)))]
        simp [List.removeAll, h, hm]
      · rw [if_neg (by simp [List.mem_eraseDups, hm, h])]
        simp [List.removeAll, h, List.eraseDups_cons]

/-- Of equal paths the first one is listed. -/
theorem paths_ofPaths (paths : List String) : (ofPaths paths).paths = paths.eraseDups := by
  have hall : paths.filter (· ∉ empty.paths) = paths := List.filter_eq_self.2 fun p _ => decide_eq_true List.not_mem_nil
  rw [ofPaths, paths_insertAll, hall]
  rfl

end EdgeWorker.Cache.Manifest
