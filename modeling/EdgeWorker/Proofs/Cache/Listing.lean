import EdgeWorker.Proofs.Cache.Manifest
import EdgeWorker.Proofs.Json.Member

/-!
Which paths a manifest lists, wherever it comes from.

* `reader_eq_some_iff` — the texts of manifests are arrays of strings, which are taken as they are;
* `listed_spec` — paths that are added one after another stand behind those of the source, each once, so a path is listed
  twice only where the text that the manifest was read from lists it twice.
-/

namespace EdgeWorker.Cache.Manifest

open EdgeWorker.Json

variable {m : Manifest} {path text : String}

/-! ### Adding paths -/

/-- A path is added just if it was not listed. -/
theorem insert_fst_eq_true : (m.insert path).1 = true ↔ path ∉ m.paths := by
  unfold insert contains
  by_cases h : path ∈ m.paths <;> simp [h]

theorem nodup_insertAll_iff (paths : List String) : (m.insertAll paths).paths.Nodup ↔ m.paths.Nodup := by
  refine ⟨fun h => h.sublist ?_, fun h => nodup_insertAll h paths⟩
  rw [paths_insertAll]
  exact List.sublist_append_left _ _

/-! ### Reading manifests -/

/-- A manifest is read from the array of its paths, and from nothing else. -/
theorem reader_eq_some_iff : reader.ofText? text = some m ↔ Value.ofText? text = some (.array (m.paths.map .string)) := by
  have hread (t : Tree) : reader Tree.maxDepth t = some m ↔ Reader.list Reader.string Tree.maxDepth t = some m.paths := by
    rw [reader, Option.map_eq_some_iff]
    exact ⟨fun ⟨ps, hps, he⟩ => he ▸ hps, fun h => ⟨m.paths, h, rfl⟩⟩
  rw [Reader.ofText?, Reader.ofBytes?, Value.ofText?, Value.ofBytes?, Option.bind_eq_some_iff, Option.bind_eq_some_iff]
  exact exists_congr fun t => and_congr_right fun _ => (hread t).trans strings_eq_some_iff

/-! ### Sources -/

/-- What a manifest is made of before paths are added to it one after another. -/
inductive Source where
  | nothing
  | paths (ps : List String)
  | text (t : String)

/-- The manifest of a source, if it has one. -/
def Source.manifest? : Source → Option Manifest
  | .nothing => some empty
  | .paths ps => some (ofPaths ps)
  | .text t => reader.ofText? t

/-- The paths that a source lists: those of a text are the strings of an array, repeated ones included. -/
def Source.Lists : Source → List String → Prop
  | .nothing, listed => listed = []
  | .paths ps, listed => listed = ps.eraseDups
  | .text t, listed => Value.ofText? t = some (.array (listed.map .string))

theorem Source.manifest?_eq_some_iff {s : Source} : s.manifest? = some m ↔ s.Lists m.paths := by
  have hsome (n : Manifest) : some n = some m ↔ m.paths = n.paths :=
    ⟨fun h => by cases h; rfl, fun h => congrArg some (by cases m; cases n; cases h; rfl)⟩
  cases s with
  | nothing => exact hsome empty
  | paths ps =>
    rw [manifest?, Lists, ← paths_ofPaths]
    exact hsome (ofPaths ps)
  | text t => exact reader_eq_some_iff

theorem Source.nodup {s : Source} (hs : s.manifest? = some m) (htext : ∀ t, s ≠ .text t) : m.paths.Nodup := by
  cases s with
  | nothing =>
    cases hs
    exact List.nodup_nil
  | paths ps =>
    cases hs
    exact nodup_paths_ofPaths ps
  | text t => exact absurd rfl (htext t)

/-- A manifest lists the paths of its source and, behind them and each once, those that were added and not listed there;
a path is added just if it is not listed, at the end. A path is listed twice only where the source is a text that lists
it twice. -/
theorem listed_spec {s : Source} (hs : s.manifest? = some m) (added : List String) :
    s.Lists m.paths ∧ (m.insertAll added).paths = m.paths ++ (added.filter (· ∉ m.paths)).eraseDups ∧
      ((m.insertAll added).paths.Nodup ↔ ∀ t, s = .text t → m.paths.Nodup) ∧
        ∀ path, (((m.insertAll added).insert path).1 = true ↔ path ∉ (m.insertAll added).paths) ∧
          ((m.insertAll added).insert path).2.paths =
            (m.insertAll added).paths ++ if path ∈ (m.insertAll added).paths then [] else [path] := by
  refine ⟨Source.manifest?_eq_some_iff.1 hs, paths_insertAll m added, ?_, fun path => ⟨insert_fst_eq_true, ?_⟩⟩
  · rw [nodup_insertAll_iff]
    refine ⟨fun h _ _ => h, fun h => ?_⟩
    by_cases htext : ∃ t, s = .text t
    · obtain ⟨t, ht⟩ := htext
      exact h t ht
    · exact Source.nodup hs fun t ht => htext ⟨t, ht⟩
  · rw [paths_insert]
    split
    · exact (List.append_nil _).symm
    · rfl

/-- The text of a manifest that lists a path twice, and another path that is added to it. -/
theorem listed_spec_of_repeated : (Source.text "[\"a\",\"b\",\"a\"]").manifest? = some ⟨["a", "b", "a"]⟩ ∧
    ((Manifest.mk ["a", "b", "a"]).insertAll ["c", "a", "c"]).paths =
      ["a", "b", "a"] ++ (["c", "a", "c"].filter (· ∉ ["a", "b", "a"])).eraseDups := by
  have hs : (Source.text "[\"a\",\"b\",\"a\"]").manifest? = some ⟨["a", "b", "a"]⟩ := by decide +kernel
  exact ⟨hs, (listed_spec hs ["c", "a", "c"]).2.1⟩

/-- A manifest that was read may list a path twice. -/
theorem not_nodup_of_read : Manifest.reader.ofText? "[\"a\",\"b\",\"a\"]" = some ⟨["a", "b", "a"]⟩ ∧
    ¬ (Manifest.mk ["a", "b", "a"]).paths.Nodup := ⟨by decide +kernel, by decide⟩

end EdgeWorker.Cache.Manifest
