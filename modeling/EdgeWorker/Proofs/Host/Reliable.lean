import EdgeWorker.Proofs.Host.Storage

/-!
Surroundings with a storage in memory that refuses nothing, and what a job fetches in them.

* `fetches` — what was fetched in exchanges, with the answers;
* `reliable admits` — the law of such surroundings, whose state knows what was fetched so far (`run_reliable`); one lemma
  for each question.
-/

namespace EdgeWorker.Host

open EdgeWorker.Action EdgeWorker.Cache

variable {τ α : Type}

abbrev Fetches := List (Http.Request × Except Fetch.Error Http.Response)

def fetches (exchanges : List (Exchange Answer)) : Fetches :=
  exchanges.filterMap fun
    | ⟨.fetch r, a⟩ => some (r, a)
    | _ => none

/-- The law of surroundings with a storage in memory that refuses nothing. The state knows what was fetched so far. -/
def reliable (admits : Http.Request → Except Fetch.Error Http.Response → Prop) : Law Answer (Generations × Fetches)
  | (gs, fs), .store op, a, s' => a = (gs.perform op).1 ∧ s' = ((gs.perform op).2, fs)
  | (gs, fs), .fetch r, a, s' => admits r a ∧ s' = (gs, fs ++ [(r, a)])
  | s, _, _, s' => s' = s

variable {admits : Http.Request → Except Fetch.Error Http.Response → Prop} {s : Generations × Fetches}

theorem fetches_cons (x : Exchange Answer) (t : List (Exchange Answer)) : fetches (x :: t) = fetches [x] ++ fetches t :=
  List.filterMap_append (l := [x])

theorem keeping_reliable {handle : Handler τ} (h : ∀ r t, admits r (handle (.fetch r) t).1) (hw : Willing handle)
    (q : Question) (s : Generations × Fetches) (t : τ) :
    reliable admits s q (keeping Generations.perform handle q (s.1, t)).1
      ((keeping Generations.perform handle q (s.1, t)).2.1,
        s.2 ++ fetches [⟨q, (keeping Generations.perform handle q (s.1, t)).1⟩]) := by
  cases q with
  | store op =>
    obtain ⟨a, ha⟩ := hw op t
    have hr : handle (.store op) t = (.ok a, (handle (.store op) t).2) := Prod.ext ha rfl
    simp only [keeping]
    rw [hr]
    exact ⟨rfl, Prod.ext rfl (List.append_nil _)⟩
  | fetch r => exact ⟨h r t, rfl⟩
  | _ => exact Prod.ext rfl (List.append_nil _)

/-- What the law ensures holds of a run with a storage in memory, and of what was fetched in it. -/
theorem run_reliable {m : Job α} {Q : α → Generations × Fetches → Prop} {handle : Handler τ} {t : τ}
    (h : ∀ r t, admits r (handle (.fetch r) t).1) (hw : Willing handle) (hm : m.Ensures (reliable admits) s Q) :
    Q (m.run (keeping Generations.perform handle) (s.1, t)).1
      ((m.run (keeping Generations.perform handle) (s.1, t)).2.1,
        s.2 ++ fetches (m.exchanges (keeping Generations.perform handle) (s.1, t))) := by
  induction m generalizing s t with
  | done a => rw [exchanges, fetches, List.filterMap_nil, List.append_nil]; exact ensures_pure.1 hm
  | ask q next ih =>
    have hnext := ih _ (t := (keeping Generations.perform handle q (s.1, t)).2.2)
      (ensures_ask.1 hm _ _ (keeping_reliable h hw q s t))
    rw [exchanges, fetches_cons, ← List.append_assoc]
    exact hnext

/-- The same for the whole of a run. -/
theorem run_reliable_whole {m : Job α} {Q : α → Generations × Fetches → Prop} {handle : Handler τ} {gs : Generations} {t : τ}
    (h : ∀ r t, admits r (handle (.fetch r) t).1) (hw : Willing handle) (hm : m.Ensures (reliable admits) (gs, []) Q) :
    Q (m.run (keeping Generations.perform handle) (gs, t)).1
      ((m.run (keeping Generations.perform handle) (gs, t)).2.1,
        fetches (m.exchanges (keeping Generations.perform handle) (gs, t))) :=
  run_reliable h hw hm

/-- The same where the network may answer anything. -/
theorem run_reliable_any {m : Job α} {Q : α → Generations × Fetches → Prop} {handle : Handler τ} (hw : Willing handle)
    {gs : Generations} {t : τ} (hm : m.Ensures (reliable fun _ _ => True) (gs, []) Q) :
    Q (m.run (keeping Generations.perform handle) (gs, t)).1
      ((m.run (keeping Generations.perform handle) (gs, t)).2.1,
        fetches (m.exchanges (keeping Generations.perform handle) (gs, t))) :=
  run_reliable_whole (fun _ _ => trivial) hw hm

theorem ensures_performed {op : Operation} {Q : op.Answer → Generations × Fetches → Prop} :
    (store op).run.Ensures (reliable admits) s Q ↔ Q (s.1.perform op).1 ((s.1.perform op).2, s.2) := by
  refine ensures_question.trans ?_
  constructor
  · exact fun h => h _ _ ⟨rfl, rfl⟩
  · rintro h a s' ⟨rfl, rfl⟩
    exact h

theorem ensures_fetched {r : Http.Request} {Q : Except Fetch.Error Http.Response → Generations × Fetches → Prop} :
    (fetch r).run.Ensures (reliable admits) s Q ↔ ∀ a, admits r a → Q a (s.1, s.2 ++ [(r, a)]) := by
  refine ensures_question.trans ?_
  constructor
  · exact fun h a ha => h a _ ⟨ha, rfl⟩
  · rintro h a s' ⟨ha, rfl⟩
    exact h a ha

/-- What was fetched stays fetched. -/
theorem ensures_extends (m : Job α) (s : Generations × Fetches) :
    m.Ensures (reliable admits) s fun _ s' => ∃ fs, s'.2 = s.2 ++ fs := by
  have hstep : ∀ q s a s', reliable admits s q a s' → ∃ fs, s'.2 = s.2 ++ fs := by
    intro q s a s' ha
    cases q with
    | store op => exact ⟨[], by rw [ha.2, List.append_nil]⟩
    | fetch r => exact ⟨[(r, a)], by rw [ha.2]⟩
    | _ => exact ⟨[], by rw [show s' = s from ha, List.append_nil]⟩
  induction m generalizing s with
  | done a => exact ensures_pure.2 ⟨[], (List.append_nil _).symm⟩
  | ask q next ih =>
    refine ensures_ask.2 fun a s' ha => (ih a s').mono ?_
    rintro _ s'' ⟨more, hmore⟩
    obtain ⟨fs, hfs⟩ := hstep q s a s' ha
    exact ⟨fs ++ more, by rw [hmore, hfs, List.append_assoc]⟩

theorem reliable_of_isAside {q : Question} (h : q.IsAside) {a : Answer q} {s' : Generations × Fetches}
    (ha : reliable admits s q a s') : s' = s := by
  cases q <;> first | exact h.elim | exact ha

/-- What asks neither the network nor the storage changes nothing. -/
theorem ensures_aside {m : Job α} (h : Asks Question.IsAside m) : m.Ensures (reliable admits) s fun _ s' => s' = s :=
  (h.runs.ensures fun _ hq _ _ ha => reliable_of_isAside hq ha).mono fun _ _ => And.right

end EdgeWorker.Host
