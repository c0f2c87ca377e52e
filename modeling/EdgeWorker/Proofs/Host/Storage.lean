import EdgeWorker.Host.Memory
import EdgeWorker.Proofs.Host.Asks

/-!
Surroundings that have a storage.

* `keeping perform handle` — a storage put into surroundings, which may refuse operations on it;
* `inMemory admits` — the law of surroundings with a storage in memory and a network of which `admits` says what it
  may answer (`keeping_inMemory`); one lemma for each question (`ensures_store`, `ensures_fetch`, …);
* `ensures_of_reads` — a job that only reads changes nothing.
-/

namespace EdgeWorker.Host

open EdgeWorker.Action EdgeWorker.Cache

variable {κ τ α ε : Type}

/-- Surroundings with a storage. An operation that `handle` refuses fails and changes nothing, and so `handle`
answers everything that is not asked of the storage. -/
def keeping (perform : κ → (op : Operation) → op.Answer × κ) (handle : Handler τ) : Handler (κ × τ)
  | .store op, (k, t) =>
    match handle (.store op) t with
    | (.error e, t) => (.error e, k, t)
    | (.ok _, t) => ((perform k op).1, (perform k op).2, t)
  | .fetch r, (k, t) => ((handle (.fetch r) t).1, k, (handle (.fetch r) t).2)
  | .log record, (k, t) => ((handle (.log record) t).1, k, (handle (.log record) t).2)
  | .now, (k, t) => ((handle .now t).1, k, (handle .now t).2)
  | .clock, (k, t) => ((handle .clock t).1, k, (handle .clock t).2)
  | .freshId, (k, t) => ((handle .freshId t).1, k, (handle .freshId t).2)

/-- The answer of a storage to an operation, and the storage after it. -/
def Storage.perform (st : Storage) (op : Operation) : op.Answer × Storage :=
  let (answer, m) := ({ Memory.empty with storage := st } : Memory).perform op
  (answer, m.storage)

/-! ### A storage in memory -/

/-- The law of surroundings with a storage in memory. An operation is performed or refused, and `admits` tells what
the network may answer to a request. -/
def inMemory (admits : Http.Request → Except Fetch.Error Http.Response → Prop) : Law Answer Generations
  | gs, .store op, a, gs' => (a = (gs.perform op).1 ∧ gs' = (gs.perform op).2) ∨ (∃ e, a = .error e) ∧ gs' = gs
  | gs, .fetch r, a, gs' => admits r a ∧ gs' = gs
  | gs, _, _, gs' => gs' = gs

/-- A network that has just one answer to a request. -/
def Answering (network : Http.Request → Except Fetch.Error Http.Response) (r : Http.Request)
    (a : Except Fetch.Error Http.Response) : Prop := a = network r

variable {admits : Http.Request → Except Fetch.Error Http.Response → Prop} {gs : Generations}

theorem keeping_inMemory {handle : Handler τ} (h : ∀ r t, admits r (handle (.fetch r) t).1) (q : Question)
    (s : Generations × τ) : inMemory admits s.1 q (keeping Generations.perform handle q s).1
      (keeping Generations.perform handle q s).2.1 := by
  obtain ⟨gs, t⟩ := s
  cases q with
  | store op =>
    rcases hr : handle (.store op) t with ⟨e | a, t'⟩
    · exact .inr ⟨⟨e, by simp only [keeping, hr]⟩, by simp only [keeping, hr]⟩
    · exact .inl ⟨by simp only [keeping, hr], by simp only [keeping, hr]⟩
  | fetch r => exact ⟨h r t, rfl⟩
  | _ => rfl

/-- What the law ensures holds of a run with a storage in memory. -/
theorem run_keeping {m : Job α} {Q : α → Generations → Prop} {handle : Handler τ}
    (h : ∀ r t, admits r (handle (.fetch r) t).1) {s : Generations × τ} (hm : m.Ensures (inMemory admits) s.1 Q) :
    Q (m.run (keeping Generations.perform handle) s).1 (m.run (keeping Generations.perform handle) s).2.1 :=
  Action.Ensures.run (keeping_inMemory h) hm

theorem ensures_store {op : Operation} {Q : op.Answer → Generations → Prop} :
    (store op).run.Ensures (inMemory admits) gs Q ↔
      Q (gs.perform op).1 (gs.perform op).2 ∧ ∀ e, Q (.error e) gs := by
  refine ensures_question.trans ?_
  constructor
  · exact fun h => ⟨h _ _ (.inl ⟨rfl, rfl⟩), fun e => h _ _ (.inr ⟨⟨e, rfl⟩, rfl⟩)⟩
  · rintro ⟨hdone, hrefused⟩ a gs' (⟨rfl, rfl⟩ | ⟨⟨e, rfl⟩, rfl⟩)
    · exact hdone
    · exact hrefused e

/-- An attempt after an operation that is performed or refused. -/
theorem Ensures.stored {op : Operation} {f : op.Result → Attempt Cache.Error α}
    {Q : Except Cache.Error α → Generations → Prop}
    (hdone : ∀ a, (gs.perform op).1 = .ok a → (f a).run.Ensures (inMemory admits) (gs.perform op).2 Q)
    (hrefused : ∀ e, Q (.error e) gs) : (store op >>= f).run.Ensures (inMemory admits) gs Q := by
  obtain ⟨a, ha⟩ : ∃ a, (gs.perform op).1 = .ok a := by cases op <;> exact ⟨_, rfl⟩
  refine Action.Ensures.bind (ensures_store (Q := fun r gs' => r = .ok a ∧ gs' = (gs.perform op).2 ∨
    (∃ e, r = .error e) ∧ gs' = gs) |>.2 ⟨.inl ⟨ha, rfl⟩, fun e => .inr ⟨⟨e, rfl⟩, rfl⟩⟩) ?_
  rintro _ _ (⟨rfl, rfl⟩ | ⟨⟨e, rfl⟩, rfl⟩)
  · exact hdone a ha
  · exact ensures_pure.2 (hrefused e)

theorem ensures_fetch {r : Http.Request} {Q : Except Fetch.Error Http.Response → Generations → Prop} :
    (fetch r).run.Ensures (inMemory admits) gs Q ↔ ∀ a, admits r a → Q a gs := by
  refine ensures_question.trans ?_
  constructor
  · exact fun h a ha => h a gs ⟨ha, rfl⟩
  · rintro h a gs' ⟨ha, rfl⟩
    exact h a ha

theorem ensures_log {record : Log.Record} {Q : Unit → Generations → Prop} :
    (log record).Ensures (inMemory admits) gs Q ↔ Q () gs := by
  refine ensures_question.trans ?_
  constructor
  · exact fun h => h () gs rfl
  · rintro h ⟨⟩ gs' rfl
    exact h

theorem ensures_now {Q : Timestamp → Generations → Prop} :
    now.Ensures (inMemory admits) gs Q ↔ ∀ t, Q t gs := by
  refine ensures_question.trans ?_
  constructor
  · exact fun h t => h t gs rfl
  · rintro h t gs' rfl
    exact h t

/-! ### Questions that change nothing -/

theorem inMemory_of_reads {q : Question} (h : q.Reads) {a : Answer q} {gs' : Generations}
    (ha : inMemory admits gs q a gs') : gs' = gs := by
  cases q with
  | store op =>
    cases op with
    | get g u =>
      rcases ha with ⟨-, rfl⟩ | ⟨-, rfl⟩
      · rfl
      · rfl
    | _ => exact h.elim
  | fetch r => exact ha.2
  | _ => exact ha

/-- What changes nothing that is stored leaves the generations as they are. -/
theorem ensures_of_reads {m : Job α} (h : Asks Question.Reads m) :
    m.Ensures (inMemory admits) gs fun _ gs' => gs' = gs :=
  (h.runs.ensures fun _ hq _ _ ha => inMemory_of_reads hq ha).mono fun _ _ => And.right

end EdgeWorker.Host
