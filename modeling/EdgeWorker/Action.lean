/-!
Computations that ask their surroundings. What is asked, in which order, and how the computation
goes on with each answer is data, so that the same computation can run over any surroundings, be
cut off at any question, and take turns with another one.
-/

namespace EdgeWorker

/-- A computation that asks questions `q : Ask`, gets answers in `Answer q` and ends in `α`. -/
inductive Action (Ask : Type) (Answer : Ask → Type) (α : Type) where
  | done (a : α)
  | ask (q : Ask) (next : Answer q → Action Ask Answer α)

namespace Action

variable {Ask : Type} {Answer : Ask → Type} {α β σ : Type}

def bind : Action Ask Answer α → (α → Action Ask Answer β) → Action Ask Answer β
  | .done a, f => f a
  | .ask q next, f => .ask q fun a => (next a).bind f

instance : Monad (Action Ask Answer) where
  pure := .done
  bind := bind

/-- Asks one question and ends in its answer. -/
def question (q : Ask) : Action Ask Answer (Answer q) := .ask q .done

/-- Runs a computation in surroundings that have a state. -/
def run (handle : (q : Ask) → σ → Answer q × σ) : Action Ask Answer α → σ → α × σ
  | .done a, s => (a, s)
  | .ask q next, s => (next (handle q s).1).run handle (handle q s).2

/-- Replaces every question by a computation that asks others. -/
def expand {Ask' : Type} {Answer' : Ask' → Type}
    (answer : (q : Ask) → Action Ask' Answer' (Answer q)) :
    Action Ask Answer α → Action Ask' Answer' α
  | .done a => .done a
  | .ask q next => (answer q).bind fun a => (next a).expand answer

@[simp] theorem done_bind (a : α) (f : α → Action Ask Answer β) : (done a).bind f = f a := rfl

theorem bind_assoc {γ : Type} (m : Action Ask Answer α) (f : α → Action Ask Answer β)
    (g : β → Action Ask Answer γ) : (m.bind f).bind g = m.bind fun a => (f a).bind g := by
  induction m with
  | done a => rfl
  | ask q next ih => simp only [bind]; congr 1; funext a; exact ih a

theorem bind_done (m : Action Ask Answer α) : m.bind done = m := by
  induction m with
  | done a => rfl
  | ask q next ih => simp only [bind]; congr 1; funext a; exact ih a

/-- A run of one computation after another is a run of both. -/
theorem run_bind (handle : (q : Ask) → σ → Answer q × σ) (m : Action Ask Answer α)
    (f : α → Action Ask Answer β) (s : σ) :
    (m.bind f).run handle s = (f (m.run handle s).1).run handle (m.run handle s).2 := by
  induction m generalizing s with
  | done a => rfl
  | ask q next ih => exact ih _ _

end Action
end EdgeWorker
