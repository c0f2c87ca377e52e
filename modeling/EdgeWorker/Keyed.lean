/-!
Maps that keep the order in which their keys were first put. A key that is put again keeps its
place, and no key stands twice.
-/

namespace EdgeWorker

/-- Entries with distinct keys, in the order in which the keys were first put. -/
structure Keyed (κ α : Type) where
  entries : List (κ × α)
  distinct : (entries.map Prod.fst).Nodup

namespace Keyed

variable {κ α : Type} [DecidableEq κ]

instance [DecidableEq α] : DecidableEq (Keyed κ α) := fun m n =>
  decidable_of_iff (m.entries = n.entries) (by cases m; cases n; simp)

def empty : Keyed κ α := ⟨[], List.nodup_nil⟩

instance : Inhabited (Keyed κ α) := ⟨empty⟩

def keys (m : Keyed κ α) : List κ := m.entries.map Prod.fst

def get? (m : Keyed κ α) (k : κ) : Option α := m.entries.lookup k

def contains (m : Keyed κ α) (k : κ) : Bool := m.keys.contains k

def size (m : Keyed κ α) : Nat := m.entries.length

def isEmpty (m : Keyed κ α) : Bool := m.entries.isEmpty

/-- Entries with the value of a key changed by `f`, in its place, or put at the end. -/
def alterEntries (k : κ) (f : Option α → α) : List (κ × α) → List (κ × α)
  | [] => [(k, f none)]
  | (l, v) :: rest => if l = k then (l, f (some v)) :: rest else (l, v) :: alterEntries k f rest

theorem mem_keys_alterEntries {k l : κ} {f : Option α → α} {es : List (κ × α)} :
    l ∈ (alterEntries k f es).map Prod.fst → l = k ∨ l ∈ es.map Prod.fst := by
  induction es with
  | nil => simp [alterEntries]
  | cons e rest ih =>
    obtain ⟨m, v⟩ := e
    simp only [alterEntries]
    split
    · intro h; exact Or.inr (by simpa using h)
    · simp only [List.map_cons, List.mem_cons]
      rintro (h | h)
      · exact Or.inr (Or.inl h)
      · rcases ih h with h | h
        · exact Or.inl h
        · exact Or.inr (Or.inr h)

theorem nodup_alterEntries {k : κ} {f : Option α → α} {es : List (κ × α)}
    (h : (es.map Prod.fst).Nodup) : ((alterEntries k f es).map Prod.fst).Nodup := by
  induction es with
  | nil => simp [alterEntries]
  | cons e rest ih =>
    obtain ⟨m, v⟩ := e
    rw [List.map_cons, List.nodup_cons] at h
    simp only [alterEntries]
    split
    · simpa using h
    · rename_i hne
      rw [List.map_cons, List.nodup_cons]
      refine ⟨fun hm => ?_, ih h.2⟩
      rcases mem_keys_alterEntries hm with hm | hm
      · exact hne hm
      · exact h.1 hm

/-- The map with the value of one key changed by `f`; a key that is not there yet is put at the
end. -/
def alter (m : Keyed κ α) (k : κ) (f : Option α → α) : Keyed κ α :=
  ⟨alterEntries k f m.entries, nodup_alterEntries m.distinct⟩

def put (m : Keyed κ α) (k : κ) (v : α) : Keyed κ α := m.alter k fun _ => v

def putAll (m : Keyed κ α) (es : List (κ × α)) : Keyed κ α :=
  es.foldl (fun m (k, v) => m.put k v) m

/-- The map of entries; the last value of a key wins, in the place of the first. -/
def ofList (es : List (κ × α)) : Keyed κ α := putAll empty es

def erase (m : Keyed κ α) (k : κ) : Keyed κ α :=
  ⟨m.entries.filter fun e => e.1 ≠ k,
    m.distinct.sublist (List.Sublist.map _ List.filter_sublist)⟩

end Keyed
end EdgeWorker
