import EdgeWorker.Proofs.Surroundings

/-!
Computations that take turns.

* `Weaves ms m` — `m` takes the steps of all of `ms`, each of them in its order; which one is next may depend on the answers.
  One after another is such a way (`weaves_forM`);
* `Weaves.ensures` — an invariant, and an assertion about each of them that its own steps carry on and no step of another
  one breaks, hold in the end.
-/

namespace EdgeWorker.Action

variable {Ask : Type} {Answer : Ask → Type} {α ι σ : Type} {ms : List (Action Ask Answer Unit)}
  {m : Action Ask Answer Unit}

/-- A computation takes the steps of others, in any order that keeps the one of each. -/
inductive Weaves : List (Action Ask Answer Unit) → Action Ask Answer Unit → Prop
  | done {ms : List (Action Ask Answer Unit)} : (∀ m ∈ ms, m = .done ()) → Weaves ms (.done ())
  | step (before after : List (Action Ask Answer Unit)) {q : Ask} {next rest : Answer q → Action Ask Answer Unit} :
      (∀ a, Weaves (before ++ next a :: after) (rest a)) → Weaves (before ++ .ask q next :: after) (.ask q rest)

/-- What is done has no turn. -/
theorem Weaves.cons_done (h : Weaves ms m) : Weaves (.done () :: ms) m := by
  induction h with
  | done h => exact .done (List.forall_mem_cons.2 ⟨rfl, h⟩)
  | step before after _ ih => exact .step (.done () :: before) after ih

/-- One of them may be the first to the end. -/
theorem Weaves.first (h : Weaves ms m) (first : Action Ask Answer Unit) : Weaves (first :: ms) (first.bind fun _ => m) := by
  induction first with
  | done a => exact h.cons_done
  | ask q next ih => exact .step [] ms ih

/-- One after another. -/
theorem weaves_forM (f : ι → Action Ask Answer Unit) (xs : List ι) : Weaves (xs.map f) (xs.forM f) := by
  induction xs with
  | nil => exact .done (List.forall_mem_nil _)
  | cons x xs ih => exact ih.first (f x)

/-- An invariant, and an assertion about each computation that its own steps carry on and the steps of others leave as it
is, hold when all are done. -/
theorem Weaves.ensures {W : Law Answer σ} (I : σ → Prop) (Stage : ι → Action Ask Answer Unit → σ → Prop)
    (hown : ∀ {x q next s}, I s → Stage x (.ask q next) s → ∀ a s', W s q a s' → I s' ∧ Stage x (next a) s')
    (hothers : ∀ {x y q next n s}, Stage x (.ask q next) s → Stage y n s → ∀ a s', W s q a s' → Stage y n s')
    (h : Weaves ms m) {xs : List ι} {s : σ} (hI : I s) (hs : List.Forall₂ (fun x n => Stage x n s) xs ms) :
    m.Ensures W s fun _ s' => I s' ∧ ∀ x ∈ xs, Stage x (.done ()) s' := by
  induction h generalizing xs s with
  | @done ms hdone =>
    refine ensures_pure.2 ⟨hI, fun x hx => ?_⟩
    obtain ⟨i, hi, rfl⟩ := List.mem_iff_getElem.1 hx
    have hstage := hs.get hi (hs.length_eq ▸ hi)
    rw [hdone _ (List.get_mem _ _)] at hstage
    exact hstage
  | @step before after q next rest _ ih =>
    have hfront := List.forall₂_take_append xs before _ hs
    obtain ⟨x, ys, hx, hback, hxs⟩ := List.forall₂_cons_right_iff.1 (List.forall₂_drop_append xs before _ hs)
    refine ensures_ask.2 fun a s' ha => ?_
    obtain ⟨hI', hx'⟩ := hown hI hx a s' ha
    refine ih a hI' ?_
    rw [← List.take_append_drop before.length xs, hxs]
    refine List.rel_append (hfront.imp fun y n hn => hothers hx hn a s' ha) (.cons hx' ?_)
    exact hback.imp fun y n hn => hothers hx hn a s' ha

end EdgeWorker.Action
