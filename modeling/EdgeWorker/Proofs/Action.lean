import EdgeWorker.Host

/-!
What a computation asks, and what it may end in.

* `Runs P Q m` — whatever the answers are, `m` asks only questions with `P` and ends only in results with `Q`;
* `Tries P E m` — the same of an attempt, with `E` for the errors it may fail with;
* `run_fst_eq` — where the answers to the questions asked do not depend on the state of the surroundings, neither
  does the result.
-/

namespace EdgeWorker

namespace Action

variable {Ask : Type} {Answer : Ask → Type} {α β σ : Type}

/-- Whatever the answers are, only questions with `P` are asked, and the result has `Q`. -/
def Runs (P : Ask → Prop) (Q : α → Prop) : Action Ask Answer α → Prop
  | .done a => Q a
  | .ask q next => P q ∧ ∀ a, (next a).Runs P Q

variable {P : Ask → Prop} {Q : α → Prop}

theorem Runs.mono {P' : Ask → Prop} {Q' : α → Prop} {m : Action Ask Answer α} (h : m.Runs P Q)
    (hP : ∀ q, P q → P' q) (hQ : ∀ a, Q a → Q' a) : m.Runs P' Q' := by
  induction m with
  | done a => exact hQ a h
  | ask q next ih => exact ⟨hP q h.1, fun a => ih a (h.2 a)⟩

theorem Runs.bind {R : β → Prop} {m : Action Ask Answer α} {f : α → Action Ask Answer β} (h : m.Runs P Q)
    (hf : ∀ a, Q a → (f a).Runs P R) : (m.bind f).Runs P R := by
  induction m with
  | done a => exact hf a h
  | ask q next ih => exact ⟨h.1, fun a => ih a (h.2 a)⟩

theorem Runs.result {m : Action Ask Answer α} (h : m.Runs P Q) (handle : (q : Ask) → σ → Answer q × σ) (s : σ) :
    Q (m.run handle s).1 := by
  induction m generalizing s with
  | done a => exact h
  | ask q next ih => exact ih _ (h.2 _) _

/-- What follows a computation matters only for its possible results. -/
theorem Runs.bind_congr {m : Action Ask Answer α} {f f' : α → Action Ask Answer β} (h : m.Runs P Q)
    (hf : ∀ a, Q a → f a = f' a) : m >>= f = m >>= f' := by
  show m.bind f = m.bind f'
  induction m with
  | done a => exact hf a h
  | ask q next ih => exact congrArg (Action.ask q) (funext fun a => ih a (h.2 a))

@[simp] theorem run_pure (handle : (q : Ask) → σ → Answer q × σ) (a : α) (s : σ) :
    (pure a : Action Ask Answer α).run handle s = (a, s) := rfl

@[simp] theorem run_do (handle : (q : Ask) → σ → Answer q × σ) (m : Action Ask Answer α)
    (f : α → Action Ask Answer β) (s : σ) :
    (m >>= f).run handle s = (f (m.run handle s).1).run handle (m.run handle s).2 := run_bind handle m f s

/-- Questions that are always answered in the same way lead to the same result. -/
theorem run_fst_eq {handle : (q : Ask) → σ → Answer q × σ} {m : Action Ask Answer α}
    (h : m.Runs (fun q => ∀ s s', (handle q s).1 = (handle q s').1) Q) (s s' : σ) :
    (m.run handle s).1 = (m.run handle s').1 := by
  induction m generalizing s s' with
  | done a => rfl
  | ask q next ih =>
    simp only [run]
    rw [h.1 s s']
    exact ih _ (h.2 _) _ _

/-- Surroundings in related states that answer alike and stay related lead to the same result. -/
theorem run_related {τ : Type} {R : σ → τ → Prop} {handle : (q : Ask) → σ → Answer q × σ}
    {handle' : (q : Ask) → τ → Answer q × τ}
    (hstep : ∀ q s s', R s s' → (handle q s).1 = (handle' q s').1 ∧ R (handle q s).2 (handle' q s').2)
    (m : Action Ask Answer α) {s : σ} {s' : τ} (h : R s s') :
    (m.run handle s).1 = (m.run handle' s').1 ∧ R (m.run handle s).2 (m.run handle' s').2 := by
  induction m generalizing s s' with
  | done a => exact ⟨rfl, h⟩
  | ask q next ih =>
    obtain ⟨hanswer, hnext⟩ := hstep q s s' h
    simp only [run]
    rw [hanswer]
    exact ih _ hnext

end Action

namespace Host

open EdgeWorker.Action

/-- Surroundings that answer questions, with their state. -/
abbrev Handler (σ : Type) := (q : Question) → σ → Answer q × σ

/-- No operation on a storage is refused. -/
def Willing {σ : Type} (handle : Handler σ) : Prop := ∀ op s, ∃ a, (handle (.store op) s).1 = .ok a

variable {ε δ α β : Type} {P : Question → Prop} {E : ε → Prop}

/-- Whatever the answers are, only questions with `P` are asked, and errors have `E`. -/
def Tries (P : Question → Prop) (E : ε → Prop) (m : Attempt ε α) : Prop :=
  Runs P (fun r => ∀ e, r = .error e → E e) m.run

theorem tries_bind {m : Attempt ε α} {f : α → Attempt ε β} (h : Tries P E m) (hf : ∀ a, Tries P E (f a)) :
    Tries P E (m >>= f) := by
  refine Runs.bind h fun r hr => ?_
  cases r with
  | ok a => exact hf a
  | error e => exact fun e' he => hr e' (by cases he; rfl)

theorem tries_pure (a : α) : Tries P E (pure a : Attempt ε α) := fun _ he => by cases he

theorem tries_throw {e : ε} (he : E e) : Tries P E (throw e : Attempt ε α) := fun _ h => by cases h; exact he

theorem tries_settled {outcome : Except ε α} (h : ∀ e, outcome = .error e → E e) : Tries P E (settled outcome) := h

theorem tries_fetch {r : Http.Request} (h : P (.fetch r)) : Tries P (fun _ => True) (fetch r) :=
  ⟨h, fun _ _ _ => trivial⟩

theorem tries_store {op : Cache.Operation} (h : P (.store op)) : Tries P (fun _ => True) (store op) :=
  ⟨h, fun _ _ _ => trivial⟩

theorem tries_withError {D : δ → Prop} {f : ε → δ} {m : Attempt ε α} (h : Tries P E m) (hf : ∀ e, E e → D (f e)) :
    Tries P D (withError f m) := by
  refine Runs.bind h fun r hr => ?_
  cases r with
  | ok a => exact fun d hd => by cases hd
  | error e => exact fun d hd => by cases hd; exact hf e (hr e rfl)

theorem Tries.runs {m : Attempt ε α} (h : Tries P E m) : Runs P (fun r => ∀ e, r = .error e → E e) m.run := h

-- whether an attempt tries something is not found out by running it
attribute [irreducible] Tries

end Host
end EdgeWorker
