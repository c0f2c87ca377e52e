import EdgeWorker.Cache.Current
import EdgeWorker.Proofs.Cache.Agreement

/-!
What becomes of generations while one of them is filled, and when all others are dropped.

* `IsMarked gs g` — the generation is marked as complete;
* `Grows g gs gs'` — nothing was taken away, and something put into no generation but `g`;
* `Fills g gs gs'` — the same, and all marks are what they were;
* `Advances g gs gs'` — something was put into no generation but `g`, and nothing was taken away but other generations
  as a whole.
-/

namespace EdgeWorker.Cache

variable {gs gs' gs'' : Generations} {g h url : String} {entries : List (String × Entry)}

namespace Generations

def IsMarked (gs : Generations) (g : String) : Prop := (gs.entryAt? g readyMarker).isSome

instance (gs : Generations) (g : String) : Decidable (gs.IsMarked g) := by unfold IsMarked; infer_instance

/-- Every entry of a generation has one in another state too, under the same address. -/
def Retains (g : String) (gs gs' : Generations) : Prop := ∀ url, (gs.entryAt? g url).isSome → (gs'.entryAt? g url).isSome

theorem Retains.refl (g : String) (gs : Generations) : Retains g gs gs := fun _ h => h

theorem Retains.trans (h : Retains g gs gs') (h' : Retains g gs' gs'') : Retains g gs gs'' := fun url hu => h' url (h url hu)

theorem Retains.of_get?_eq (h : gs'.get? g = gs.get? g) : Retains g gs gs' := by
  unfold Retains entryAt?
  rw [h]
  exact fun _ hu => hu

theorem retains_putAll (gs : Generations) (g : String) (entries : List (String × Entry)) :
    Retains g gs (gs.putAll g entries) := by
  intro url hu
  rw [entryAt?_putAll_self, Option.isSome_or, hu, Bool.or_true]

/-- What was put is there. -/
theorem isSome_entryAt?_putAll (gs : Generations) (h : url ∈ entries.map Prod.fst) :
    ((gs.putAll g entries).entryAt? g url).isSome := by
  rw [← mem_urls, urls_putAll_self, Persistent.mem_listed]
  exact .inr h

theorem isMarked_putAll_marker (gs : Generations) (g : String) (e : Entry) :
    (gs.putAll g [(readyMarker, e)]).IsMarked g := isSome_entryAt?_putAll gs List.mem_cons_self

theorem mark_putAll (gs : Generations) (hm : readyMarker ∉ entries.map Prod.fst) :
    (gs.putAll g entries).entryAt? h readyMarker = gs.entryAt? h readyMarker := by
  by_cases he : h = g
  · subst he
    have hnone : (Keyed.ofList entries).get? readyMarker = none := by
      rw [← Option.not_isSome_iff_eq_none, ← Keyed.mem_keys,
        show (Keyed.ofList entries).keys = _ from keys_putAll_entries Keyed.empty entries, Persistent.mem_listed]
      exact not_or.2 ⟨List.not_mem_nil, hm⟩
    rw [entryAt?_putAll_self, hnone, Option.none_or]
  · rw [entryAt?_putAll_of_ne he]

theorem mem_keys_of_isMarked (hm : gs.IsMarked g) : g ∈ gs.keys := by
  rw [Keyed.mem_keys]
  unfold IsMarked entryAt? at hm
  cases hg : gs.get? g with
  | none => simp [hg] at hm
  | some entries => rfl

/-- Nothing was taken away, and nothing put into another generation. -/
structure Grows (g : String) (gs gs' : Generations) : Prop where
  keys : gs.keys <+: gs'.keys
  others : ∀ h, h ≠ g → gs'.get? h = gs.get? h
  kept : Retains g gs gs'

namespace Grows

theorem refl (g : String) (gs : Generations) : Grows g gs gs := ⟨List.prefix_rfl, fun _ _ => rfl, .refl g gs⟩

theorem trans (h : Grows g gs gs') (h' : Grows g gs' gs'') : Grows g gs gs'' where
  keys := h.keys.trans h'.keys
  others k hk := (h'.others k hk).trans (h.others k hk)
  kept := h.kept.trans h'.kept

theorem prefix_addKey (keys : List String) (g : String) : keys <+: if g ∈ keys then keys else keys ++ [g] := by
  split
  · exact List.prefix_rfl
  · exact List.prefix_append _ _

theorem openGeneration (gs : Generations) (g : String) : Grows g gs (gs.openGeneration g) where
  keys := by rw [keys_openGeneration]; exact prefix_addKey _ _
  others h hne := by rw [get?_openGeneration, if_neg hne]
  kept url hu := by rwa [entryAt?_openGeneration]

theorem putAll (gs : Generations) (g : String) (entries : List (String × Entry)) :
    Grows g gs (gs.putAll g entries) where
  keys := by rw [keys_putAll]; exact prefix_addKey _ _
  others h hne := by rw [get?_putAll, if_neg hne]
  kept := retains_putAll gs g entries

end Grows

/-- Nothing was taken away, nothing put into another generation, and all marks are what they were. -/
structure Fills (g : String) (gs gs' : Generations) : Prop extends Grows g gs gs' where
  marks : ∀ h, gs'.entryAt? h readyMarker = gs.entryAt? h readyMarker

namespace Fills

theorem refl (g : String) (gs : Generations) : Fills g gs gs := ⟨.refl g gs, fun _ => rfl⟩

theorem trans (h : Fills g gs gs') (h' : Fills g gs' gs'') : Fills g gs gs'' :=
  ⟨h.toGrows.trans h'.toGrows, fun k => (h'.marks k).trans (h.marks k)⟩

theorem openGeneration (gs : Generations) (g : String) : Fills g gs (gs.openGeneration g) :=
  ⟨.openGeneration gs g, fun _ => entryAt?_openGeneration gs g _ _⟩

theorem putAll (gs : Generations) (g : String) (hm : readyMarker ∉ entries.map Prod.fst) :
    Fills g gs (gs.putAll g entries) := ⟨.putAll gs g entries, fun _ => mark_putAll gs hm⟩

theorem isMarked_iff (hf : Fills g gs gs') : gs'.IsMarked h ↔ gs.IsMarked h := by
  unfold IsMarked
  rw [hf.marks]

end Fills

/-- Nothing was put into another generation, and what was taken away are other generations as a whole. -/
structure Advances (g : String) (gs gs' : Generations) : Prop where
  others : ∀ h, h ≠ g → gs'.get? h = gs.get? h ∨ gs'.get? h = none
  kept : Retains g gs gs'

namespace Advances

theorem trans (h : Advances g gs gs') (h' : Advances g gs' gs'') : Advances g gs gs'' where
  others k hk := by
    rcases h'.others k hk with he | he
    · rw [he]; exact h.others k hk
    · exact .inr he
  kept := h.kept.trans h'.kept

/-- A generation that is marked afterwards has lost nothing. -/
theorem retains_of_isMarked (ha : Advances g gs gs') (hm : gs'.IsMarked h) : Retains h gs gs' := by
  by_cases hh : h = g
  · exact hh ▸ ha.kept
  · rcases ha.others h hh with he | he
    · exact .of_get?_eq he
    · have hk := mem_keys_of_isMarked hm
      rw [Keyed.mem_keys, he] at hk
      cases hk

end Advances

theorem Grows.advances (h : Grows g gs gs') : Advances g gs gs' := ⟨fun k hk => .inl (h.others k hk), h.kept⟩

end Generations

end EdgeWorker.Cache
