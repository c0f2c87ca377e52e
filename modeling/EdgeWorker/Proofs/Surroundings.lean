import EdgeWorker.Proofs.Exchange
import Mathlib.Data.List.Forall2

/-!
Computations in surroundings of which only a law is known.

* `Law` — which answers a question may get in a state, and which states may follow;
* `Ensures W m s Q` — whatever is answered within the law `W`, `m` leads from `s` to a result and a state with `Q`.
  One lemma for each way to put a computation together, and `Ensures.run` for surroundings that keep to the law;
* `ensures_mapM`, `ensures_all` — an invariant that knows what was done so far.
-/

namespace EdgeWorker

namespace Action

variable {Ask : Type} {Answer : Ask → Type} {α β ι σ τ : Type}

instance : LawfulMonad (Action Ask Answer) :=
  LawfulMonad.mk' _ (fun m => bind_done m) (fun _ _ => rfl) bind_assoc

/-- In which answers and following states a question may result in a state. -/
abbrev Law (Answer : Ask → Type) (σ : Type) := σ → (q : Ask) → Answer q → σ → Prop

/-- Whatever is answered within a law, the end is a result and a state with `Q`. -/
def Ensures (W : Law Answer σ) : Action Ask Answer α → σ → (α → σ → Prop) → Prop
  | .done a, s, Q => Q a s
  | .ask q next, s, Q => ∀ a s', W s q a s' → (next a).Ensures W s' Q

variable {W : Law Answer σ} {s : σ} {Q R : α → σ → Prop} {m : Action Ask Answer α}

theorem Ensures.mono (h : m.Ensures W s R) (hQ : ∀ a s', R a s' → Q a s') : m.Ensures W s Q := by
  induction m generalizing s with
  | done a => exact hQ a s h
  | ask q next ih => exact fun a s' ha => ih a (h a s' ha)

theorem Ensures.and (h : m.Ensures W s Q) (h' : m.Ensures W s R) : m.Ensures W s fun a s' => Q a s' ∧ R a s' := by
  induction m generalizing s with
  | done a => exact ⟨h, h'⟩
  | ask q next ih => exact fun a s' ha => ih a (h a s' ha) (h' a s' ha)

theorem Ensures.forall {κ : Sort*} {Q : κ → α → σ → Prop} (h : ∀ i, m.Ensures W s (Q i)) :
    m.Ensures W s fun a s' => ∀ i, Q i a s' := by
  induction m generalizing s with
  | done a => exact h
  | ask q next ih => exact fun a s' ha => ih a fun i => h i a s' ha

theorem ensures_pure {a : α} : (pure a : Action Ask Answer α).Ensures W s Q ↔ Q a s := Iff.rfl

theorem ensures_ask {q : Ask} {next : Answer q → Action Ask Answer α} :
    (ask q next).Ensures W s Q ↔ ∀ a s', W s q a s' → (next a).Ensures W s' Q := Iff.rfl

theorem ensures_question {q : Ask} {Q : Answer q → σ → Prop} :
    (question q : Action Ask Answer _).Ensures W s Q ↔ ∀ a s', W s q a s' → Q a s' := Iff.rfl

theorem ensures_bind {f : α → Action Ask Answer β} {Q : β → σ → Prop} :
    (m >>= f).Ensures W s Q ↔ m.Ensures W s fun a s' => (f a).Ensures W s' Q := by
  show (m.bind f).Ensures W s Q ↔ _
  induction m generalizing s with
  | done a => exact Iff.rfl
  | ask q next ih => exact forall_congr' fun a => forall_congr' fun s' => imp_congr_right fun _ => ih a

/-- One computation after another. -/
theorem Ensures.bind {f : α → Action Ask Answer β} {Q : β → σ → Prop} (h : m.Ensures W s R)
    (hf : ∀ a s', R a s' → (f a).Ensures W s' Q) : (m >>= f).Ensures W s Q := ensures_bind.2 (h.mono hf)

/-- What a law ensures holds of a run in surroundings that keep to it. -/
theorem Ensures.run {handle : (q : Ask) → τ → Answer q × τ} {view : τ → σ}
    (hW : ∀ q t, W (view t) q (handle q t).1 (view (handle q t).2)) {t : τ} (h : m.Ensures W (view t) Q) :
    Q (m.run handle t).1 (view (m.run handle t).2) := by
  induction m generalizing t with
  | done a => exact h
  | ask q next ih => exact ih _ (h _ _ (hW q t))

/-- Where all questions that may be asked leave the state as it is, so does the computation. -/
theorem Runs.ensures {P : Ask → Prop} {E : α → Prop} (h : m.Runs P E)
    (hP : ∀ q, P q → ∀ a s', W s q a s' → s' = s) : m.Ensures W s fun a s' => E a ∧ s' = s := by
  induction m with
  | done a => exact ⟨h, rfl⟩
  | ask q next ih =>
    intro a s' ha
    obtain rfl := hP q h.1 a s' ha
    exact ih a (h.2 a)

/-- The same for each of a list, given an invariant about what was done so far. -/
theorem ensures_mapM {f : ι → Action Ask Answer α} {I : List (ι × α) → σ → Prop}
    (hf : ∀ i done s, I done s → (f i).Ensures W s fun a s' => I (done ++ [(i, a)]) s') (xs : List ι)
    {done : List (ι × α)} (hs : I done s) :
    (xs.mapM f).Ensures W s fun as s' => as.length = xs.length ∧ I (done ++ xs.zip as) s' := by
  induction xs generalizing s done with
  | nil => exact ⟨rfl, by rwa [List.zip_nil_left, List.append_nil]⟩
  | cons i xs ih =>
    rw [List.mapM_cons]
    refine (hf i done s hs).bind fun a s' ha => ?_
    refine (ih ha).bind fun as s'' has => ?_
    rw [List.append_assoc] at has
    exact ⟨congrArg (· + 1) has.1, has.2⟩

-- whether it holds is not found out by running
attribute [irreducible] Ensures

end Action

namespace Host

open EdgeWorker.Action

variable {ε δ α β ι σ : Type} {W : Law Answer σ} {s : σ} {x : Attempt ε α} {Q : Except ε α → σ → Prop}

/-! ### Attempts -/

/-- An attempt after another, which is made where that one did not fail. -/
theorem Ensures.attempt {f : α → Attempt ε β} {R : Except ε α → σ → Prop} {Q : Except ε β → σ → Prop}
    (h : x.run.Ensures W s R) (hok : ∀ a s', R (.ok a) s' → (f a).run.Ensures W s' Q)
    (herror : ∀ e s', R (.error e) s' → Q (.error e) s') : (x >>= f).run.Ensures W s Q := by
  refine Action.Ensures.bind h fun r s' hr => ?_
  cases r with
  | ok a => exact hok a s' hr
  | error e => exact ensures_pure.2 (herror e s' hr)

/-- An attempt after a known outcome. -/
theorem Ensures.settle {outcome : Except ε α} {f : α → Attempt ε β} {Q : Except ε β → σ → Prop}
    (hok : ∀ a, outcome = .ok a → (f a).run.Ensures W s Q) (herror : ∀ e, outcome = .error e → Q (.error e) s) :
    (settled outcome >>= f).run.Ensures W s Q := by
  cases outcome with
  | ok a => exact hok a rfl
  | error e => exact ensures_pure.2 (herror e rfl)

theorem ensures_withError {f : ε → δ} {Q : Except δ α → σ → Prop} :
    (withError f x).run.Ensures W s Q ↔ x.run.Ensures W s fun r s' => Q (r.mapError f) s' := by
  show (x.run >>= fun r => pure (r.mapError f)).Ensures W s Q ↔ _
  simp only [ensures_bind, ensures_pure]

theorem settled_bind (a : α) (f : α → Attempt ε β) : settled (.ok a) >>= f = f a := rfl

/-- An attempt after a job that cannot fail. -/
theorem lift_bind (j : Job α) (f : α → Attempt ε β) : (liftM j >>= f).run = j >>= fun a => (f a).run := by
  show (j >>= fun a => pure (Except.ok a)) >>= _ = _
  rw [LawfulMonad.bind_assoc]
  rfl

theorem ensures_lift {j : Job α} {f : α → Attempt ε β} {Q : Except ε β → σ → Prop} :
    (liftM j >>= f).run.Ensures W s Q ↔ j.Ensures W s fun a s' => (f a).run.Ensures W s' Q := by
  rw [lift_bind, ensures_bind]

/-- Results that are all there. -/
theorem mapM_id_eq_ok {rs : List (Except ε α)} {as : List α} : rs.mapM id = .ok as ↔ rs = as.map .ok := by
  induction rs generalizing as with
  | nil => cases as <;> simp [pure, Except.pure]
  | cons r rs ih =>
    rw [List.mapM_cons]
    cases r with
    | error e => cases as <;> simp [Bind.bind, Except.bind]
    | ok a =>
      cases h : rs.mapM id with
      | error e =>
        cases as with
        | nil => simp [Bind.bind, Except.bind]
        | cons b as => simp [Bind.bind, Except.bind, ← ih, h]
      | ok bs => cases as <;> simp [Bind.bind, Except.bind, pure, Except.pure, ← ih, h]

theorem run_all (f : ι → Attempt ε α) (xs : List ι) :
    (all (xs.map f)).run = xs.mapM (fun i => (f i).run) >>= fun rs => pure (rs.mapM id) := by
  unfold Host.all
  rw [List.mapM_map]
  exact Action.bind_assoc _ _ _

/-- All of several attempts are made, whatever comes of them. -/
theorem ensures_all {f : ι → Attempt ε α} {I : List (ι × Except ε α) → σ → Prop}
    (hf : ∀ i done s, I done s → (f i).run.Ensures W s fun r s' => I (done ++ [(i, r)]) s') (xs : List ι)
    (hs : I [] s) : (all (xs.map f)).run.Ensures W s fun r s' =>
      ∃ rs, rs.length = xs.length ∧ I (xs.zip rs) s' ∧ r = rs.mapM id := by
  have hall := ensures_mapM (f := fun i => (f i).run) hf xs hs
  rw [run_all]
  exact hall.bind fun rs s' h => ensures_pure.2 ⟨rs, h.1, h.2, rfl⟩

end Host
end EdgeWorker
