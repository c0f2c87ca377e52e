import EdgeWorker.Proofs.Cache.Growth
import EdgeWorker.Proofs.Host.Storage

/-!
Surroundings whose storage answers as generations in memory do.

* `Storage.Serves names st gs` — a storage answers operations on generations of these names as `gs` does, and has no others
  (`Storage.Serves.perform`). The names are any for one in memory, and names that do not interfere for one over a store of
  single values;
* `Agrees` — over both a job ends alike, and leaves them alike; with the jobs that ask about these generations only
  (`agrees_of_asks`), `Agrees.bind`, and an activation (`agrees_activate`).
-/

namespace EdgeWorker.Host

open EdgeWorker.Action EdgeWorker.Cache EdgeWorker.Cache.Persistent

variable {names : String → Prop} {st : Storage} {gs : Generations}

namespace Storage

/-- A storage has generations of these names only, and answers operations on them as generations in memory do. -/
structure Serves (names : String → Prop) (st : Storage) (gs : Generations) : Prop where
  answers : st = .memory gs ∨ ∃ s c, st = .keyValue s ∧ s.Holds c ∧ Keeps names c gs
  keys : ∀ g ∈ gs.keys, names g

/-- There are no other generations after an operation on one of these names. -/
theorem Serves.keys_perform (h : Serves names st gs) {op : Operation} (hop : ∀ g ∈ op.generation?, names g) :
    ∀ g ∈ (gs.perform op).2.keys, names g := by
  intro g hg
  rw [gs.keys_perform op] at hg
  rcases mem_namesAfter hg with hold | hnew
  · exact h.keys g hold
  · exact hop g hnew

theorem Serves.perform (h : Serves names st gs) (op : Operation) (hop : ∀ g ∈ op.generation?, names g) :
    (st.perform op).1 = (gs.perform op).1 ∧ Serves names (st.perform op).2 (gs.perform op).2 := by
  have hkeys := h.keys_perform hop
  rcases h.answers with rfl | ⟨s, c, rfl, hholds, hkeeps⟩
  · exact ⟨rfl, .inl rfl, hkeys⟩
  · obtain ⟨hanswer, c', hholds', hkeeps'⟩ := hholds.perform hkeeps [] hop
    exact ⟨hanswer, .inr ⟨_, c', rfl, hholds', hkeeps'⟩, hkeys⟩

theorem Serves.get (h : Serves names st gs) {g : String} (hg : names g) (url : String) :
    (st.perform (.get g url)).1 = .ok (gs.entryAt? g url) :=
  (h.perform (.get g url) fun _ hg' => Option.some.inj hg' ▸ hg).1

def entryAt? (st : Storage) (g url : String) : Option Entry := (st.perform (.get g url)).1.toOption.join

def IsMarked (st : Storage) (g : String) : Prop := (st.entryAt? g readyMarker).isSome

instance (st : Storage) (g : String) : Decidable (st.IsMarked g) := by
  unfold IsMarked
  infer_instance

theorem Serves.entryAt?_eq (h : Serves names st gs) {g : String} (hg : names g) (url : String) :
    st.entryAt? g url = gs.entryAt? g url := by
  unfold entryAt?
  rw [h.get hg]
  rfl

theorem Serves.isMarked_iff (h : Serves names st gs) {g : String} (hg : names g) : st.IsMarked g ↔ gs.IsMarked g := by
  unfold IsMarked Generations.IsMarked
  rw [h.entryAt?_eq hg]

theorem serves_empty (h : st = .memory .empty ∨ st = .keyValue .empty ∧ Separate names) : Serves names st .empty := by
  refine ⟨?_, List.forall_mem_nil _⟩
  rcases h with rfl | ⟨rfl, hnames⟩
  · exact .inl rfl
  · exact .inr ⟨.empty, fun _ => none, rfl, ⟨fun _ => rfl, rfl, rfl, rfl⟩, keeps_empty hnames⟩

/-- Looking up an entry leaves a storage as it is. -/
theorem perform_get (st : Storage) (g url : String) : (st.perform (.get g url)).2 = st := by
  cases st with
  | memory gs => rfl
  | keyValue s =>
    show Storage.keyValue ((Persistent.getEntry g url).run.run Store.answer (s, [])).2.1 = _
    have hget : (KeyValue.get (Persistent.entryKey g url)).run.run Store.answer (s, []) =
        (s.get (Persistent.entryKey g url), s, []) := rfl
    rw [Persistent.getEntry_eq, run_attempt, hget]
    cases s.get (Persistent.entryKey g url) <;> rfl

end Storage

/-- If the question is to the storage, it is about a generation of one of these names. -/
def Question.Names (names : String → Prop) : Question → Prop
  | .store op => ∀ g ∈ op.generation?, names g
  | _ => True

theorem Question.Names.mono {names' : String → Prop} {q : Question} (h : q.Names names) (hn : ∀ g, names g → names' g) :
    q.Names names' := by
  cases q with
  | store op => exact fun g hg => hn g (h g hg)
  | _ => trivial

section Agreement

variable {τ α β : Type} {handle : Handler τ} {t : τ}

/-- Over a storage and over generations in memory a job ends alike, and leaves them alike. -/
def Agrees (names : String → Prop) (handle : Handler τ) (m : Job α) (st : Storage) (gs : Generations) (t : τ) : Prop :=
  ∃ a st' gs' t', m.run (keeping Storage.perform handle) (st, t) = (a, st', t') ∧
    m.run (keeping Generations.perform handle) (gs, t) = (a, gs', t') ∧ Storage.Serves names st' gs'

theorem agrees_question (h : Storage.Serves names st gs) {q : Question} (hq : q.Names names) :
    Agrees names handle (question q) st gs t := by
  cases q with
  | store op =>
    obtain ⟨hanswer, hserves⟩ := h.perform op hq
    unfold Agrees
    rcases hr : handle (.store op) t with ⟨e | a, t'⟩
    · exact ⟨.error e, st, gs, t', by simp only [question, run, keeping, hr], by simp only [question, run, keeping, hr], h⟩
    · exact ⟨_, _, _, t', by simp only [question, run, keeping, hr]; rfl, by simp only [question, run, keeping, hr, hanswer],
        hserves⟩
  | _ => exact ⟨_, st, gs, _, rfl, rfl, h⟩

theorem Agrees.bind {m : Job α} {f : α → Job β} (h : Agrees names handle m st gs t)
    (hf : ∀ a st' gs' t', m.run (keeping Generations.perform handle) (gs, t) = (a, gs', t') →
      Storage.Serves names st' gs' → Agrees names handle (f a) st' gs' t') :
    Agrees names handle (m >>= f) st gs t := by
  obtain ⟨a, st', gs', t', hrun, hrun', hserves⟩ := h
  obtain ⟨b, st'', gs'', t'', hnext, hnext', hserves'⟩ := hf a st' gs' t' hrun' hserves
  refine ⟨b, st'', gs'', t'', ?_, ?_, hserves'⟩
  · rw [run_do, hrun]
    exact hnext
  · rw [run_do, hrun']
    exact hnext'

/-- What asks about generations of these names only. -/
theorem agrees_of_asks {m : Job α} (hm : Asks (Question.Names names) m) (h : Storage.Serves names st gs) :
    Agrees names handle m st gs t := by
  have hruns := hm.runs
  clear hm
  induction m generalizing st gs t with
  | done a => exact ⟨a, st, gs, t, rfl, rfl, h⟩
  | ask q next ih => exact (agrees_question h hruns.1).bind fun a st' gs' t' _ hserves => ih a hserves (hruns.2 a)

/-- What asks about generations of these names only, and of which the result is known, and then something else. -/
theorem agrees_bind_of_runs {m : Job α} {f : α → Job β} {E : α → Prop} (hm : m.Runs (Question.Names names) E)
    (h : Storage.Serves names st gs) (hf : ∀ a st' gs' t', E a → Storage.Serves names st' gs' →
      Agrees names handle (f a) st' gs' t') : Agrees names handle (m >>= f) st gs t := by
  refine (agrees_of_asks (asks_of_runs hm) h).bind fun a st' gs' t' hrun hserves => hf a st' gs' t' ?_ hserves
  have hresult := hm.result (keeping Generations.perform handle) (gs, t)
  rwa [hrun] at hresult

theorem Agrees.attempt {ε : Type} {x : Attempt ε α} {f : α → Attempt ε β} (h : Agrees names handle x.run st gs t)
    (hf : ∀ a, Asks (Question.Names names) (f a).run) : Agrees names handle (x >>= f).run st gs t := by
  refine h.bind fun result st' gs' t' _ hserves => ?_
  cases result with
  | ok a => exact agrees_of_asks (hf a) hserves
  | error e => exact agrees_of_asks (asks_pure _) hserves

/-- The generations that an activation deletes are those that are there. -/
theorem agrees_activate (h : Storage.Serves names st gs) (c : Current) :
    Agrees names handle c.activate.run st gs t := by
  unfold Current.activate
  refine (agrees_question h (q := .store .generations) nofun).bind fun answer st' gs' t' hrun hserves => ?_
  refine agrees_of_asks ?_ hserves
  -- the storage refuses to answer, or these are the generations
  have hanswer : answer = .ok gs.keys ∨ ∃ e, answer = .error e := by
    simp only [question, run, keeping] at hrun
    split at hrun
    · next e t'' _ => exact .inr ⟨e, (Prod.ext_iff.1 hrun).1.symm⟩
    · exact .inl (Prod.ext_iff.1 hrun).1.symm
  rcases hanswer with rfl | ⟨e, rfl⟩
  · refine Asks.attempt (asks_all fun g hg => asks_store fun g' hg' => ?_) fun _ =>
      Asks.attempt (asks_log trivial).lift fun _ => asks_pure _
    cases hg'
    exact h.keys _ (List.mem_of_mem_filter hg)
  · exact asks_pure _

end Agreement
end EdgeWorker.Host
