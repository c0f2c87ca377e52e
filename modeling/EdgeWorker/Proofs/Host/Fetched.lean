import EdgeWorker.Proofs.Host.Reliable

/-!
What a job fetches on the way to its result, in any surroundings.

* `ComesTo m fs a` — answered in some way, a job ends in `a` and has fetched just `fs`; a run is such a way
  (`comesTo_run`);
* one lemma for each way to put a job together, `ComesTo.of_mapError_bind` where it may fail before it asks anything, and
  `ComesTo.of_local_bind` for what fetches nothing.
-/

namespace EdgeWorker.Host

open EdgeWorker.Action

variable {α β ε δ σ : Type} {m : Job α} {x : Attempt ε α} {fs : Fetches} {a : α}

theorem fetches_append (t t' : List (Exchange Answer)) : fetches (t ++ t') = fetches t ++ fetches t' :=
  List.filterMap_append

/-- What was fetched was asked for, and answered so. -/
theorem mem_of_mem_fetches {t : List (Exchange Answer)} {y : Http.Request × Except Fetch.Error Http.Response}
    (h : y ∈ fetches t) : ⟨.fetch y.1, y.2⟩ ∈ t := by
  obtain ⟨⟨q, b⟩, hz, heq⟩ := List.mem_filterMap.1 h
  cases q with
  | fetch r =>
    cases heq
    exact hz
  | _ => cases heq

/-- Answered in some way, a job ends in `a` and has fetched just `fs`. -/
def ComesTo (m : Job α) (fs : Fetches) (a : α) : Prop := ∃ t, m.Ends t a ∧ fetches t = fs

theorem comesTo_run (handle : Handler σ) (m : Job α) (s : σ) :
    ComesTo m (fetches (m.exchanges handle s)) (m.run handle s).1 := ⟨_, ends_run handle m s, rfl⟩

theorem comesTo_pure {b : α} : ComesTo (pure b) fs a ↔ fs = [] ∧ a = b := by
  constructor
  · rintro ⟨_, ⟨rfl, rfl⟩, rfl⟩
    exact ⟨rfl, rfl⟩
  · rintro ⟨rfl, rfl⟩
    exact ⟨[], ⟨rfl, rfl⟩, rfl⟩

theorem comesTo_bind {f : α → Job β} {b : β} : ComesTo (m >>= f) fs b ↔
    ∃ fs₁ fs₂ a, fs = fs₁ ++ fs₂ ∧ ComesTo m fs₁ a ∧ ComesTo (f a) fs₂ b := by
  constructor
  · rintro ⟨_, h, rfl⟩
    obtain ⟨t₁, t₂, a, rfl, h₁, h₂⟩ := ends_bind.1 h
    exact ⟨_, _, a, fetches_append t₁ t₂, ⟨t₁, h₁, rfl⟩, ⟨t₂, h₂, rfl⟩⟩
  · rintro ⟨_, _, a, rfl, ⟨t₁, h₁, rfl⟩, ⟨t₂, h₂, rfl⟩⟩
    exact ⟨t₁ ++ t₂, ends_bind.2 ⟨t₁, t₂, a, rfl, h₁, h₂⟩, fetches_append t₁ t₂⟩

theorem comesTo_map {g : α → β} {b : β} : ComesTo (m >>= fun a => pure (g a)) fs b ↔ ∃ a, ComesTo m fs a ∧ b = g a := by
  constructor
  · rintro ⟨t, h, rfl⟩
    obtain ⟨a, ha, rfl⟩ := ends_map.1 h
    exact ⟨a, ⟨t, ha, rfl⟩, rfl⟩
  · rintro ⟨a, ⟨t, h, rfl⟩, rfl⟩
    exact ⟨t, ends_map.2 ⟨a, h, rfl⟩, rfl⟩

theorem comesTo_fetch {r : Http.Request} {answer : Except Fetch.Error Http.Response} :
    ComesTo (fetch r).run fs answer ↔ fs = [(r, answer)] := by
  constructor
  · rintro ⟨t, h, rfl⟩
    obtain rfl := ends_question.1 h
    rfl
  · rintro rfl
    exact ⟨_, ends_question.2 rfl, rfl⟩

/-- Something is fetched first. -/
theorem comesTo_fetched {r : Http.Request} {next : Except Fetch.Error Http.Response → Job α} :
    ComesTo (.ask (.fetch r) next) fs a ↔ ∃ answer more, fs = (r, answer) :: more ∧ ComesTo (next answer) more a := by
  constructor
  · rintro ⟨_, ⟨answer, t, rfl, h⟩, rfl⟩
    exact ⟨answer, fetches t, rfl, t, h, rfl⟩
  · rintro ⟨answer, _, rfl, t, h, rfl⟩
    exact ⟨_, ⟨answer, t, rfl, h⟩, rfl⟩

/-- Only what may be asked for is fetched. -/
theorem ComesTo.forall_mem {P : Question → Prop} (h : ComesTo m fs a) (hm : Asks P m) : ∀ y ∈ fs, P (.fetch y.1) := by
  obtain ⟨t, h, rfl⟩ := h
  intro y hy
  exact hm.runs.exchanges h _ (mem_of_mem_fetches hy)

def Question.IsLocal : Question → Prop
  | .fetch _ => False
  | _ => True

theorem Question.IsAside.isLocal {q : Question} (h : q.IsAside) : q.IsLocal := by
  cases q <;> first | exact h.elim | trivial

/-- What does not ask the network fetches nothing. -/
theorem ComesTo.eq_nil (h : ComesTo m fs a) (hm : Asks Question.IsLocal m) : fs = [] :=
  List.eq_nil_iff_forall_not_mem.2 fun y hy => h.forall_mem hm y hy

theorem ComesTo.of_aside {E : α → Prop} (h : ComesTo m fs a) (hm : m.Runs Question.IsAside E) : fs = [] ∧ E a := by
  refine ⟨h.eq_nil ((asks_of_runs hm).mono fun _ => Question.IsAside.isLocal), ?_⟩
  obtain ⟨t, hends, -⟩ := h
  exact hm.ends hends

theorem ComesTo.of_local_bind {f : α → Job β} {b : β} (h : ComesTo (m >>= f) fs b) (hm : Asks Question.IsLocal m) :
    ∃ a, ComesTo (f a) fs b := by
  obtain ⟨fs₁, fs₂, a, rfl, h₁, h₂⟩ := comesTo_bind.1 h
  rw [h₁.eq_nil hm]
  exact ⟨a, h₂⟩

/-- An aside first. -/
theorem ComesTo.of_aside_bind {f : α → Job β} {b : β} (h : ComesTo (m >>= f) fs b) (hm : Asks Question.IsAside m) :
    ∃ a, ComesTo (f a) fs b := h.of_local_bind (hm.mono fun _ => Question.IsAside.isLocal)

/-! ### Attempts -/

theorem comesTo_settled {outcome r : Except ε α} : ComesTo (settled outcome).run fs r ↔ fs = [] ∧ r = outcome := comesTo_pure

theorem comesTo_withError {f : ε → δ} {r : Except δ α} :
    ComesTo (withError f x).run fs r ↔ ∃ r', ComesTo x.run fs r' ∧ r = r'.mapError f := comesTo_map

/-- An attempt after a known outcome, whose failure is seen in another way. -/
theorem ComesTo.of_mapError_bind {outcome : Except δ α} {g : δ → ε} {f : α → Attempt ε β} {r : Except ε β}
    (h : ComesTo (settled (outcome.mapError g) >>= f).run fs r) :
    (∃ a, outcome = .ok a ∧ ComesTo (f a).run fs r) ∨ ∃ e, outcome = .error e ∧ fs = [] ∧ r = .error (g e) := by
  cases outcome with
  | ok a => exact .inl ⟨a, rfl, h⟩
  | error e =>
    obtain ⟨rfl, rfl⟩ := comesTo_pure.1 h
    exact .inr ⟨e, rfl, rfl, rfl⟩

/-- An attempt after one that may fail, whose failure is seen in another way. -/
theorem ComesTo.of_withError_bind {y : Attempt δ α} {g : δ → ε} {f : α → Attempt ε β} {r : Except ε β}
    (h : ComesTo (withError g y >>= f).run fs r) :
    (∃ fs₁ fs₂ a, fs = fs₁ ++ fs₂ ∧ ComesTo y.run fs₁ (.ok a) ∧ ComesTo (f a).run fs₂ r) ∨
      ∃ e, ComesTo y.run fs (.error e) ∧ r = .error (g e) := by
  obtain ⟨fs₁, fs₂, _, rfl, hwith, hf⟩ := comesTo_bind.1 h
  obtain ⟨result, hy, rfl⟩ := comesTo_withError.1 hwith
  cases result with
  | ok a => exact .inl ⟨fs₁, fs₂, a, rfl, hy, hf⟩
  | error e =>
    obtain ⟨rfl, rfl⟩ := comesTo_pure.1 hf
    exact .inr ⟨e, by rwa [List.append_nil], rfl⟩

/-- A job first, in an attempt. -/
theorem comesTo_lift_bind {f : α → Attempt ε β} {r : Except ε β} : ComesTo (liftM m >>= f).run fs r ↔
    ∃ fs₁ fs₂ a, fs = fs₁ ++ fs₂ ∧ ComesTo m fs₁ a ∧ ComesTo (f a).run fs₂ r := by
  rw [lift_bind]
  exact comesTo_bind

theorem ComesTo.of_lift_bind {f : α → Attempt ε β} {r : Except ε β} (h : ComesTo (liftM m >>= f).run fs r)
    (hm : Asks Question.IsLocal m) : ∃ a, ComesTo (f a).run fs r := by
  rw [lift_bind] at h
  exact h.of_local_bind hm

end EdgeWorker.Host
