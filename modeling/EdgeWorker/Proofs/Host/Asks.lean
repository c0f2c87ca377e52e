import EdgeWorker.Cache.Current
import EdgeWorker.Proofs.Surroundings

/-!
What a job asks and what it ends in, whatever it is answered, with a lemma for each way to put jobs together.

* `Asks P m` — only questions with `P` are asked;
* `Yields E m` — the result has `E`;
* `Question.Reads` — the question changes nothing that is stored;
* `Question.IsAside` — the question is neither to the network nor to the storage;
* `Question.Marks` — the question is to mark a generation as complete.
-/

namespace EdgeWorker.Host

open EdgeWorker.Action

variable {α β ε δ ι : Type} {P : Question → Prop}

/-- Only questions with `P` are asked. -/
def Asks (P : Question → Prop) (m : Job α) : Prop := m.Runs P fun _ => True

theorem Asks.runs {m : Job α} (h : Asks P m) : m.Runs P fun _ => True := h

theorem Asks.mono {P' : Question → Prop} {m : Job α} (h : Asks P m) (hP : ∀ q, P q → P' q) : Asks P' m :=
  Runs.mono h hP fun _ _ => trivial

/-- What is asked, whatever is known of the result. -/
theorem asks_of_runs {m : Job α} {E : α → Prop} (h : m.Runs P E) : Asks P m := Runs.mono h (fun _ => id) fun _ _ => trivial

theorem asks_pure (a : α) : Asks P (pure a) := trivial

theorem asks_question {q : Question} (h : P q) : Asks P (question q) := ⟨h, fun _ => trivial⟩

theorem asks_store {op : Cache.Operation} (h : P (.store op)) : Asks P (store op).run := asks_question h

theorem asks_fetch {r : Http.Request} (h : P (.fetch r)) : Asks P (fetch r).run := asks_question h

theorem asks_log {record : Log.Record} (h : P (.log record)) : Asks P (log record) := asks_question h

theorem asks_now (h : P .now) : Asks P now := asks_question h

theorem asks_clock (h : P .clock) : Asks P clock := asks_question h

theorem asks_freshId (h : P .freshId) : Asks P freshId := asks_question h

theorem Asks.bind {m : Job α} {f : α → Job β} (h : Asks P m) (hf : ∀ a, Asks P (f a)) : Asks P (m >>= f) :=
  Runs.bind h fun a _ => hf a

/-- A job that only asks such questions, and then one of which the result is known too. -/
theorem Asks.runs_bind {m : Job α} {f : α → Job β} {E : β → Prop} (h : Asks P m) (hf : ∀ a, (f a).Runs P E) :
    (m >>= f).Runs P E := Runs.bind h.runs fun a _ => hf a

/-- The same the other way round. -/
theorem asks_bind_of_runs {m : Job α} {f : α → Job β} {E : α → Prop} (h : m.Runs P E) (hf : ∀ a, E a → Asks P (f a)) :
    Asks P (m >>= f) := Runs.bind h hf

theorem runs_pure {a : α} {E : α → Prop} (h : E a) : (pure a : Job α).Runs P E := h

theorem runs_settled (outcome : Except ε α) : (settled outcome).run.Runs P (outcome = ·) := rfl

theorem asks_settled (outcome : Except ε α) : Asks P (settled outcome).run := trivial

theorem Asks.withError {f : ε → δ} {x : Attempt ε α} (h : Asks P x.run) : Asks P (withError f x).run :=
  Runs.bind h fun _ _ => trivial

/-- An attempt of which it is known what it obtains, and then one that only asks such questions. -/
theorem asks_attempt_of_runs {x : Attempt ε α} {f : α → Attempt ε β} {E : Except ε α → Prop} (h : x.run.Runs P E)
    (hf : ∀ a, E (.ok a) → Asks P (f a).run) : Asks P (x >>= f).run := Runs.attempt h hf fun _ _ => trivial

theorem Asks.attempt {x : Attempt ε α} {f : α → Attempt ε β} (h : Asks P x.run) (hf : ∀ a, Asks P (f a).run) :
    Asks P (x >>= f).run := asks_attempt_of_runs h fun a _ => hf a

theorem Asks.lift {m : Job α} (h : Asks P m) : Asks P (liftM m : Attempt ε α).run := Runs.bind h fun _ _ => trivial

theorem Tries.asks {E : ε → Prop} {x : Attempt ε α} (h : Tries P E x) : Asks P x.run := asks_of_runs h.runs

/-- The same job for each of a list, where every result has `E`. -/
theorem runs_mapM {E : α → Prop} {f : ι → Job α} {xs : List ι} (h : ∀ i ∈ xs, (f i).Runs P E) :
    (xs.mapM f).Runs P fun as => ∀ a ∈ as, E a := by
  induction xs with
  | nil => exact runs_pure (List.forall_mem_nil _)
  | cons i xs ih =>
    have hrest := ih fun j hj => h j (List.mem_cons_of_mem _ hj)
    rw [List.mapM_cons]
    refine Runs.bind (h i List.mem_cons_self) fun a ha => Runs.bind hrest fun as has => ?_
    exact runs_pure (List.forall_mem_cons.2 ⟨ha, has⟩)

/-- Several attempts, where everything that one of them obtains has `E`. -/
theorem runs_all {E : α → Prop} {f : ι → Attempt ε α} {xs : List ι}
    (h : ∀ i ∈ xs, (f i).run.Runs P fun r => ∀ a, r = .ok a → E a) :
    (all (xs.map f)).run.Runs P fun r => ∀ as, r = .ok as → ∀ a ∈ as, E a := by
  rw [run_all]
  refine Runs.bind (runs_mapM h) fun rs hrs => runs_pure fun as has a ha => ?_
  obtain rfl := mapM_id_eq_ok.1 has
  exact hrs _ (List.mem_map_of_mem ha) a rfl

theorem asks_all {f : ι → Attempt ε α} {xs : List ι} (h : ∀ i ∈ xs, Asks P (f i).run) : Asks P (all (xs.map f)).run :=
  asks_of_runs (runs_all fun i hi => Runs.mono (h i hi).runs (fun _ => id) fun _ _ _ _ => trivial)

/-! ### Results -/

variable {E : α → Prop} {F : β → Prop}

/-- Every result has `E`. -/
def Yields (E : α → Prop) (m : Job α) : Prop := m.Runs (fun _ => True) E

theorem Yields.runs {m : Job α} (h : Yields E m) : m.Runs (fun _ => True) E := h

theorem yields_pure {a : α} (h : E a) : Yields E (pure a) := h

theorem yields_true (m : Job α) : Yields (fun _ => True) m := by
  unfold Yields
  induction m with
  | done a => trivial
  | ask q next ih => exact ⟨trivial, ih⟩

theorem Yields.bind {m : Job α} {f : α → Job β} (h : Yields E m) (hf : ∀ a, E a → Yields F (f a)) : Yields F (m >>= f) :=
  Runs.bind h hf

/-- Whatever the first result is. -/
theorem yields_bind {m : Job α} {f : α → Job β} (hf : ∀ a, Yields F (f a)) : Yields F (m >>= f) :=
  (yields_true m).bind fun a _ => hf a

/-- What is asked, together with what is known of the result. -/
theorem Asks.runs_of_yields {m : Job α} (h : Asks P m) (hE : Yields E m) : m.Runs P E := by
  unfold Asks at h
  unfold Yields at hE
  induction m with
  | done a => exact hE
  | ask q next ih => exact ⟨h.1, fun a => ih a (h.2 a) (hE.2 a)⟩

theorem Yields.ensures {σ : Type} {W : Law Answer σ} {s : σ} {Q : α → σ → Prop} {m : Job α} (h : Yields E m)
    (hm : m.Ensures W s Q) : m.Ensures W s fun a s' => E a ∧ Q a s' := by
  unfold Yields at h
  induction m generalizing s with
  | done a => exact ensures_pure.2 ⟨h, ensures_pure.1 hm⟩
  | ask q next ih => exact ensures_ask.2 fun a s' ha => ih a (h.2 a) (ensures_ask.1 hm a s' ha)

-- as with `Tries`, neither is found out by running
attribute [irreducible] Asks Yields

/-! ### Questions -/

/-- The question changes nothing that is stored: if it is one to the storage, it is to look up an entry. -/
def Question.Reads : Question → Prop
  | .store (.get _ _) => True
  | .store _ => False
  | _ => True

/-- The question is neither to fetch nor one to the storage. -/
def Question.IsAside : Question → Prop
  | .fetch _ => False
  | .store _ => False
  | _ => True

/-- The question is to mark a generation as complete: to keep something under the address of the mark. -/
def Question.Marks : Question → Prop
  | .store (.put _ url _) => url = Cache.readyMarker
  | .store (.putAll _ entries) => Cache.readyMarker ∈ entries.map Prod.fst
  | _ => False

end EdgeWorker.Host
