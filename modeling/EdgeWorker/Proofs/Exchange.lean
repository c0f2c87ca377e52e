import EdgeWorker.Proofs.Action

/-!
Computations that ask, seen from what they were answered.

* `Ends m t r` — answered as `t` says, `m` asks just the questions of `t` and ends in `r`; `ends_bind` takes a
  computation apart, and `ends_attempt` one that may fail;
* `exchanges` — what a run asks and is answered; it ends as that says (`ends_run`);
* `Runs.exchanges` — what holds of every question that may be asked holds of those that were asked.
-/

namespace EdgeWorker.Action

variable {Ask : Type} {Answer : Ask → Type} {α β ε σ : Type}

abbrev Exchange (Answer : Ask → Type) := (q : Ask) × Answer q

/-- Answered in this way, a computation ends in this result, and asks no more. -/
def Ends : Action Ask Answer α → List (Exchange Answer) → α → Prop
  | .done a, t, r => t = [] ∧ r = a
  | .ask q next, t, r => ∃ a more, t = ⟨q, a⟩ :: more ∧ (next a).Ends more r

variable {m : Action Ask Answer α} {t : List (Exchange Answer)} {q : Ask}

theorem ends_pure {a r : α} : (pure a : Action Ask Answer α).Ends t r ↔ t = [] ∧ r = a := Iff.rfl

theorem ends_question {r : Answer q} : (question q : Action Ask Answer _).Ends t r ↔ t = [⟨q, r⟩] := by
  constructor
  · rintro ⟨a, more, rfl, rfl, rfl⟩
    rfl
  · rintro rfl
    exact ⟨r, [], rfl, rfl, rfl⟩

theorem ends_bind {f : α → Action Ask Answer β} {r : β} :
    (m >>= f).Ends t r ↔ ∃ t₁ t₂ a, t = t₁ ++ t₂ ∧ m.Ends t₁ a ∧ (f a).Ends t₂ r := by
  show (m.bind f).Ends t r ↔ _
  induction m generalizing t with
  | done a =>
    constructor
    · exact fun h => ⟨[], t, a, rfl, ⟨rfl, rfl⟩, h⟩
    · rintro ⟨t₁, t₂, b, rfl, ⟨rfl, rfl⟩, h⟩
      exact h
  | ask q next ih =>
    constructor
    · rintro ⟨a, more, rfl, h⟩
      obtain ⟨t₁, t₂, b, rfl, h₁, h₂⟩ := (ih a).1 h
      exact ⟨⟨q, a⟩ :: t₁, t₂, b, rfl, ⟨a, t₁, rfl, h₁⟩, h₂⟩
    · rintro ⟨t₁, t₂, b, rfl, ⟨a, more, rfl, h₁⟩, h₂⟩
      exact ⟨a, more ++ t₂, rfl, (ih a).2 ⟨more, t₂, b, rfl, h₁, h₂⟩⟩

/-- What is only made of a result asks nothing more. -/
theorem ends_map {g : α → β} {r : β} : (m >>= fun a => pure (g a)).Ends t r ↔ ∃ a, m.Ends t a ∧ r = g a := by
  refine ends_bind.trans ⟨?_, ?_⟩
  · rintro ⟨t₁, _, a, rfl, h, rfl, rfl⟩
    exact ⟨a, by rwa [List.append_nil], rfl⟩
  · rintro ⟨a, h, rfl⟩
    exact ⟨t, [], a, (List.append_nil t).symm, h, rfl, rfl⟩

/-! ### Runs -/

def exchanges (handle : (q : Ask) → σ → Answer q × σ) : Action Ask Answer α → σ → List (Exchange Answer)
  | .done _, _ => []
  | .ask q next, s => ⟨q, (handle q s).1⟩ :: (next (handle q s).1).exchanges handle (handle q s).2

theorem ends_run (handle : (q : Ask) → σ → Answer q × σ) (m : Action Ask Answer α) (s : σ) :
    m.Ends (m.exchanges handle s) (m.run handle s).1 := by
  induction m generalizing s with
  | done a => exact ⟨rfl, rfl⟩
  | ask q next ih => exact ⟨_, _, rfl, ih _ _⟩

theorem exchanges_bind (handle : (q : Ask) → σ → Answer q × σ) (m : Action Ask Answer α) (f : α → Action Ask Answer β)
    (s : σ) : (m >>= f).exchanges handle s =
      m.exchanges handle s ++ (f (m.run handle s).1).exchanges handle (m.run handle s).2 := by
  show (m.bind f).exchanges handle s = _
  induction m generalizing s with
  | done a => rfl
  | ask q next ih => exact congrArg (_ :: ·) (ih _ _)

/-- Every question of a run was answered in some state. -/
theorem exists_state_of_mem_exchanges {handle : (q : Ask) → σ → Answer q × σ} {s : σ} {x : Exchange Answer}
    (hx : x ∈ m.exchanges handle s) : ∃ s', x.2 = (handle x.1 s').1 := by
  induction m generalizing s with
  | done a => cases hx
  | ask q next ih =>
    rcases List.mem_cons.1 hx with rfl | hx
    · exact ⟨s, rfl⟩
    · exact ih _ hx

theorem Runs.exchanges {P : Ask → Prop} {Q : α → Prop} {r : α} (h : m.Runs P Q) (he : m.Ends t r) :
    ∀ x ∈ t, P x.1 := by
  induction m generalizing t with
  | done a =>
    obtain ⟨rfl, -⟩ := he
    exact nofun
  | ask q next ih =>
    obtain ⟨a, more, rfl, he⟩ := he
    intro x hx
    rcases List.mem_cons.1 hx with rfl | hx
    · exact h.1
    · exact ih a (h.2 a) he x hx

theorem Runs.ends {P : Ask → Prop} {Q : α → Prop} {r : α} (h : m.Runs P Q) (he : m.Ends t r) : Q r := by
  induction m generalizing t with
  | done a =>
    obtain ⟨-, rfl⟩ := he
    exact h
  | ask q next ih =>
    obtain ⟨a, more, -, he⟩ := he
    exact ih a (h.2 a) he

/-! ### Attempts -/

section Attempts

variable {x : ExceptT ε (Action Ask Answer) α} {f : α → ExceptT ε (Action Ask Answer) β}

theorem run_attempt (handle : (q : Ask) → σ → Answer q × σ) (x : ExceptT ε (Action Ask Answer) α)
    (f : α → ExceptT ε (Action Ask Answer) β) (s : σ) :
    (x >>= f).run.run handle s = match x.run.run handle s with
      | (.ok a, s') => (f a).run.run handle s'
      | (.error e, s') => (.error e, s') := by
  show (x.run >>= _).run handle s = _
  rw [run_do]
  rcases x.run.run handle s with ⟨e | a, s'⟩ <;> rfl

/-- An attempt goes on where it did not fail. -/
theorem ends_attempt {r : Except ε β} : (x >>= f).run.Ends t r ↔
    (∃ t₁ t₂ a, t = t₁ ++ t₂ ∧ x.run.Ends t₁ (.ok a) ∧ (f a).run.Ends t₂ r) ∨
      ∃ e, x.run.Ends t (.error e) ∧ r = .error e := by
  refine ends_bind.trans ⟨?_, ?_⟩
  · rintro ⟨t₁, t₂, e | a, rfl, h₁, h₂⟩
    · obtain ⟨rfl, rfl⟩ := h₂
      exact .inr ⟨e, by rwa [List.append_nil], rfl⟩
    · exact .inl ⟨t₁, t₂, a, rfl, h₁, h₂⟩
  · rintro (⟨t₁, t₂, a, rfl, h₁, h₂⟩ | ⟨e, h, rfl⟩)
    · exact ⟨t₁, t₂, .ok a, rfl, h₁, h₂⟩
    · exact ⟨t, [], .error e, by rw [List.append_nil], h, rfl, rfl⟩

/-- An attempt goes on with what the one before it obtained, or fails as that one did. -/
theorem Runs.attempt {P : Ask → Prop} {E : Except ε α → Prop} {F : Except ε β → Prop} (h : x.run.Runs P E)
    (hok : ∀ a, E (.ok a) → (f a).run.Runs P F) (herror : ∀ e, E (.error e) → F (.error e)) :
    (x >>= f).run.Runs P F := by
  refine Runs.bind h fun r hr => ?_
  cases r with
  | ok a => exact hok a hr
  | error e => exact herror e hr

end Attempts
end EdgeWorker.Action
