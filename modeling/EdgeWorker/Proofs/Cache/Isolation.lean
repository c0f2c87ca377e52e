import EdgeWorker.Proofs.Cache.Frame

/-!
When generations of one store are out of each other's reach.

* `Reachable c` — what a store may hold, whatever of it has failed so far;
* `Unaffected h c c'` — nothing that is seen of a generation was changed;
* `isolated_iff` — operations on one generation leave another one alone just if the names of the two are apart.
-/

namespace EdgeWorker.Cache.Persistent

open EdgeWorker.Action KeyValue

variable {c c' : Contents} {t : List Exchange} {g h key : String} {op : Operation}

/-- What a store may hold after operations on generations, any of which may have failed. -/
inductive Reachable : Contents → Prop
  | empty : Reachable fun _ => none
  | step {c c' : Contents} {op : Operation} {t : List Exchange} {r : op.Answer} :
    Reachable c → Trial c (perform op) t r c' → Reachable c'

/-- Nothing that is seen of a generation is another in one state than in the other one. -/
structure Unaffected (h : String) (c c' : Contents) : Prop where
  get : ∀ url, answerOf c' (.get h url) = answerOf c (.get h url)
  urls : answerOf c' (.urls h) = answerOf c (.urls h)
  listed : IsListed h c' ↔ IsListed h c

/-- In no state that may be reached an operation on `g` is seen at `h`. -/
def Isolated (g h : String) : Prop :=
  ∀ (c c' : Contents) (op : Operation) (t : List Exchange) (r : op.Answer), Reachable c → op.generation? = some g →
    Trial c (perform op) t r c' → Unaffected h c c'

/-- The keys of a generation are out of reach for operations on names that are apart from its own. -/
theorem eq_of_apart {r : op.Answer} (ha : Apart g h) (hop : op.generation? = some g) (ht : Trial c (perform op) t r c')
    (ho : Owns h key) : c' key = c key := by
  refine ht.eq_of_within (perform_within op) fun htouch => ?_
  rcases owns_of_touches hop htouch with hk | hk
  · exact ho.ne_generationsKey hk
  · exact ha.not_owns hk ho

theorem isListed_of_keepsOthers (hne : h ≠ g) (hk : KeepsOthers g (c generationsKey) (c' generationsKey)) :
    IsListed h c' ↔ IsListed h c := by
  rw [isListed_iff, isListed_iff]
  rcases hk with he | ⟨names, names', hl, he, hsame⟩
  · rw [he]
  · rw [he, hl, listOf_listText]
    simp only [Except.ok.injEq, exists_eq_left', hsame h hne]

theorem unaffected_of_apart {r : op.Answer} (ha : Apart g h) (hop : op.generation? = some g)
    (ht : Trial c (perform op) t r c') : Unaffected h c c' where
  get url := by rw [answerOf_get, answerOf_get, eq_of_apart ha hop ht (.inr ⟨url, rfl⟩)]
  urls := by rw [answerOf_urls, answerOf_urls, eq_of_apart ha hop ht (.inl rfl)]
  listed := isListed_of_keepsOthers ha.1.symm (perform_keepsOthers hop ht)

/-- Names that are not apart share the key of an entry. -/
theorem exists_entryKey_eq (ha : ¬ Apart g h) : ∃ u v, entryKey g u = entryKey h v := by
  by_cases he : g = h
  · exact ⟨"", "", by rw [he]⟩
  · simp only [Apart, not_and, not_forall] at ha
    obtain ⟨s, hs⟩ := ha he
    by_cases hh : h = g ++ ":" ++ s
    · exact ⟨s ++ ":" ++ "", "", by simp [hh, entryKey, String.append_assoc]⟩
    · have hg : g = h ++ ":" ++ s := not_not.1 (hs hh)
      exact ⟨"", s ++ ":" ++ "", by simp [hg, entryKey, String.append_assoc]⟩

/-- An entry that is put is found under all names that share its key. -/
theorem not_isolated {u v : String} (hk : entryKey g u = entryKey h v) : ¬ Isolated g h := by
  intro hi
  let e := Entry.of 200 [] .epoch
  have hafter : after (fun _ => none) (.put g u e) = filled (fun _ => none) [] [] g [(u, e)] :=
    congrArg Prod.snd (run_putAll rfl rfl [(u, e)])
  have hsame := (hi _ _ _ _ _ .empty rfl (trial_after _ (.put g u e))).get v
  have hfound : (Keyed.ofList [(u, e)]).get? u = some e := Keyed.get?_put_self Keyed.empty u e
  simp only [answerOf_get, hafter, ← hk, filled_entryKey, setAll_texts, hfound, Option.elim_some, entryOf_json,
    entryOf_none] at hsame
  cases hsame

/-- Operations on one generation leave another one alone just if the names of the two are apart. -/
theorem isolated_iff : Isolated g h ↔ Apart g h := by
  constructor
  · -- names that are not apart share a key, and one entry under it is seen from both
    intro hi
    by_contra ha
    obtain ⟨u, v, hk⟩ := exists_entryKey_eq ha
    exact not_isolated hk hi
  · intro ha c c' op t r _ hop ht
    exact unaffected_of_apart ha hop ht

/-- Different names are not enough. -/
theorem not_isolated_of_ne : ∃ g h, g ≠ h ∧ ¬ Isolated g h :=
  ⟨"app:1", "app", by decide, not_isolated (u := "a") (v := "1:a") (by decide)⟩

end EdgeWorker.Cache.Persistent
