import EdgeWorker.Cache.KeyValue
import EdgeWorker.Proofs.Exchange
import Mathlib.Logic.Function.Basic

/-!
What stores of single values hold.

* `Contents.answer` — a store that does not fail;
* `Takes c x c'` — what an exchange with any store makes of its contents: a change that is answered with an error may
  have been made or not;
* `Trial c m t r c'` — steps that are answered in this way by a store, from the contents `c` to the contents `c'`;
* `Quiet t` — no value was lost on the way back to the old ones.
-/

namespace EdgeWorker.Cache.KeyValue

open EdgeWorker.Action

/-- What a store holds under its keys. -/
abbrev Contents := String → Option Bytes

abbrev Exchange := Action.Exchange Answer

variable {c c' d : Contents} {t t' : List Exchange} {α β : Type} {key : String}

/-- A store that does not fail: its answer to a question, and what it holds then. -/
def Contents.answer : (q : Question) → Contents → Answer q × Contents
  | .get key, c => (.ok (c key), c)
  | .set key value, c => (.ok (), Function.update c key (some value))
  | .delete key, c => (.ok (), Function.update c key none)
  | .report _ _, c => ((), c)

def Contents.setAll (c : Contents) (pairs : List (String × Bytes)) : Contents :=
  pairs.foldl (fun c (key, value) => Function.update c key (some value)) c

def Contents.deleteAll (c : Contents) (keys : List String) : Contents :=
  keys.foldl (fun c key => Function.update c key none) c

theorem Contents.setAll_of_forall_ne {pairs : List (String × Bytes)} (h : ∀ p ∈ pairs, p.1 ≠ key) :
    c.setAll pairs key = c key := by
  induction pairs generalizing c with
  | nil => rfl
  | cons p pairs ih =>
    have hrest := ih (c := Function.update c p.1 (some p.2)) fun q hq => h q (List.mem_cons_of_mem _ hq)
    exact hrest.trans (Function.update_of_ne (h p List.mem_cons_self).symm _ _)

theorem Contents.deleteAll_append (c : Contents) (keys keys' : List String) :
    c.deleteAll (keys ++ keys') = (c.deleteAll keys).deleteAll keys' := List.foldl_append

theorem Contents.deleteAll_apply (c : Contents) (keys : List String) (key : String) :
    c.deleteAll keys key = if key ∈ keys then none else c key := by
  induction keys generalizing c with
  | nil => rfl
  | cons k keys ih =>
    rw [show c.deleteAll (k :: keys) = Contents.deleteAll (Function.update c k none) keys from rfl, ih]
    by_cases hk : key = k
    · simp [hk]
    · simp [hk]

/-- Where nothing fails, all values are set. -/
theorem run_setAll (pairs : List (String × Bytes)) (c : Contents) :
    (setAll pairs).run.run Contents.answer c = (.ok (), c.setAll pairs) := by
  suffices ∀ previous, (setFrom previous pairs).run Contents.answer c = (.ok (), c.setAll pairs) from this []
  intro previous
  induction pairs generalizing c previous with
  | nil => rfl
  | cons p pairs ih => exact ih (Function.update c p.1 (some p.2)) _

/-- How a value is taken back. -/
def takeBack (key : String) : Option Bytes → Attempt Unit
  | some value => set key value
  | none => delete key

theorem restore_cons (key : String) (old : Option Bytes) (rest : List (String × Option Bytes)) :
    restore ((key, old) :: rest) = (takeBack key old).run >>= fun result => match result with
      | .error e => Action.question (.report key e) >>= fun _ => restore rest
      | .ok () => restore rest := by
  cases old <;>
  · show Action.bind _ _ = Action.bind _ _
    congr 1
    funext result
    cases result <;> rfl

/-! ### Exchanges with a store that may fail -/

/-- What an exchange makes of the contents of a store. -/
def Takes (c : Contents) : Exchange → Contents → Prop
  | ⟨.get key, .ok old⟩, c' => old = c key ∧ c' = c
  | ⟨.get _, .error _⟩, c' => c' = c
  | ⟨.set key value, .ok _⟩, c' => c' = Function.update c key (some value)
  | ⟨.set key value, .error _⟩, c' => c' = c ∨ c' = Function.update c key (some value)
  | ⟨.delete key, .ok _⟩, c' => c' = Function.update c key none
  | ⟨.delete key, .error _⟩, c' => c' = c ∨ c' = Function.update c key none
  | ⟨.report _ _, _⟩, c' => c' = c

/-- What several exchanges make of the contents of a store. -/
def Follows : Contents → List Exchange → Contents → Prop
  | c, [], c' => c' = c
  | c, x :: t, c' => ∃ d, Takes c x d ∧ Follows d t c'

theorem follows_append : Follows c (t ++ t') c' ↔ ∃ d, Follows c t d ∧ Follows d t' c' := by
  induction t generalizing c with
  | nil => exact ⟨fun h => ⟨c, rfl, h⟩, fun ⟨d, hd, h⟩ => hd ▸ h⟩
  | cons x t ih =>
    constructor
    · rintro ⟨e, hx, h⟩
      obtain ⟨d, hd, h⟩ := ih.1 h
      exact ⟨d, ⟨e, hx, hd⟩, h⟩
    · rintro ⟨d, ⟨e, hx, hd⟩, h⟩
      exact ⟨e, hx, ih.2 ⟨d, hd, h⟩⟩

theorem follows_singleton {x : Exchange} : Follows c [x] c' ↔ Takes c x c' :=
  ⟨fun ⟨_, hx, he⟩ => he ▸ hx, fun h => ⟨c', h, rfl⟩⟩

/-- The question is one to change the value of a key. -/
def Question.Changes (key : String) : Question → Prop
  | .set k _ => k = key
  | .delete k => k = key
  | _ => False

theorem Takes.eq_of_not_changes {x : Exchange} (h : Takes c x c') (hx : ¬ x.1.Changes key) : c' key = c key := by
  rcases x with ⟨q, a⟩
  cases q with
  | get k => cases a <;> simp_all [Takes]
  | set k v =>
    have hk : key ≠ k := fun he => hx he.symm
    cases a with
    | ok => rw [show c' = _ from h, Function.update_of_ne hk]
    | error => rcases h with rfl | rfl <;> simp [Function.update_of_ne hk]
  | delete k =>
    have hk : key ≠ k := fun he => hx he.symm
    cases a with
    | ok => rw [show c' = _ from h, Function.update_of_ne hk]
    | error => rcases h with rfl | rfl <;> simp [Function.update_of_ne hk]
  | report k e => rw [show c' = c from h]

/-- A key that nothing is to change keeps its value. -/
theorem Follows.eq_of_not_changes (h : Follows c t c') (ht : ∀ x ∈ t, ¬ x.1.Changes key) : c' key = c key := by
  induction t generalizing c with
  | nil => rw [show c' = c from h]
  | cons x t ih =>
    obtain ⟨d, hx, h⟩ := h
    rw [ih h fun y hy => ht y (List.mem_cons_of_mem _ hy), hx.eq_of_not_changes (ht x List.mem_cons_self)]

/-! ### Trials -/

/-- Steps that are answered by a store, what they end in, and what the store holds then. -/
structure Trial (c : Contents) (m : Steps α) (t : List Exchange) (r : α) (c' : Contents) : Prop where
  ends : m.Ends t r
  follows : Follows c t c'

/-- No value was lost on the way back to the old ones. -/
def Quiet (t : List Exchange) : Prop := ∀ key e, ⟨.report key e, ()⟩ ∉ t

theorem trial_done {a r : α} : Trial c (.done a) t r c' ↔ t = [] ∧ r = a ∧ c' = c := by
  constructor
  · rintro ⟨⟨rfl, rfl⟩, h⟩
    exact ⟨rfl, rfl, h⟩
  · rintro ⟨rfl, rfl, rfl⟩
    exact ⟨⟨rfl, rfl⟩, rfl⟩

theorem trial_question {q : Question} {r : Answer q} :
    Trial c (Action.question q) t r c' ↔ t = [⟨q, r⟩] ∧ Takes c ⟨q, r⟩ c' := by
  constructor
  · rintro ⟨he, h⟩
    rw [ends_question] at he
    subst he
    exact ⟨rfl, follows_singleton.1 h⟩
  · rintro ⟨rfl, h⟩
    exact ⟨ends_question.2 rfl, follows_singleton.2 h⟩

theorem trial_bind {m : Steps α} {f : α → Steps β} {r : β} : Trial c (m >>= f) t r c' ↔
    ∃ t₁ t₂ a d, t = t₁ ++ t₂ ∧ Trial c m t₁ a d ∧ Trial d (f a) t₂ r c' := by
  constructor
  · rintro ⟨he, h⟩
    obtain ⟨t₁, t₂, a, rfl, h₁, h₂⟩ := ends_bind.1 he
    obtain ⟨d, hd, h⟩ := follows_append.1 h
    exact ⟨t₁, t₂, a, d, rfl, ⟨h₁, hd⟩, h₂, h⟩
  · rintro ⟨t₁, t₂, a, d, rfl, ⟨h₁, hd⟩, h₂, h⟩
    exact ⟨ends_bind.2 ⟨t₁, t₂, a, rfl, h₁, h₂⟩, follows_append.2 ⟨d, hd, h⟩⟩

theorem trial_attempt {x : Attempt α} {f : α → Attempt β} {r : Except Error β} : Trial c (x >>= f).run t r c' ↔
    (∃ t₁ t₂ a d, t = t₁ ++ t₂ ∧ Trial c x.run t₁ (.ok a) d ∧ Trial d (f a).run t₂ r c') ∨
      ∃ e, Trial c x.run t (.error e) c' ∧ r = .error e := by
  constructor
  · rintro ⟨he, h⟩
    rcases ends_attempt.1 he with ⟨t₁, t₂, a, rfl, h₁, h₂⟩ | ⟨e, h₁, rfl⟩
    · obtain ⟨d, hd, h⟩ := follows_append.1 h
      exact .inl ⟨t₁, t₂, a, d, rfl, ⟨h₁, hd⟩, h₂, h⟩
    · exact .inr ⟨e, ⟨h₁, h⟩, rfl⟩
  · rintro (⟨t₁, t₂, a, d, rfl, ⟨h₁, hd⟩, h₂, h⟩ | ⟨e, ⟨h₁, h⟩, rfl⟩)
    · exact ⟨ends_attempt.2 (.inl ⟨t₁, t₂, a, rfl, h₁, h₂⟩), follows_append.2 ⟨d, hd, h⟩⟩
    · exact ⟨ends_attempt.2 (.inr ⟨e, h₁, rfl⟩), h⟩

theorem takes_answer (c : Contents) (q : Question) : Takes c ⟨q, (Contents.answer q c).1⟩ (Contents.answer q c).2 := by
  cases q <;> simp [Takes, Contents.answer]

/-- A run over a store that does not fail. -/
theorem trial_run (m : Steps α) (c : Contents) : Trial c m (m.exchanges Contents.answer c)
    (m.run Contents.answer c).1 (m.run Contents.answer c).2 where
  ends := ends_run Contents.answer m c
  follows := by
    induction m generalizing c with
    | done a => rfl
    | ask q next ih => exact ⟨_, takes_answer c q, ih _ _⟩

theorem Quiet.of_append (h : Quiet (t ++ t')) : Quiet t ∧ Quiet t' :=
  ⟨fun key e hx => h key e (List.mem_append_left _ hx), fun key e hx => h key e (List.mem_append_right _ hx)⟩

end EdgeWorker.Cache.KeyValue
