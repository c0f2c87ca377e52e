import EdgeWorker.Proofs.Host.Serving
import EdgeWorker.Proofs.Worker.Lifecycle

/-!
What can be done with a worker, and what of it writes to the storage.

* `Deed` — to load the routes, to install, to activate or to resume the worker, or to have it answer a request;
* `asks_perform` — answering and resuming ask for nothing but entries of the storage;
* `storage_kept` — so they leave the storage as it is, and after any row of deeds it is the one that the last of the
  others has left.
-/

namespace EdgeWorker

open EdgeWorker.Action EdgeWorker.Host EdgeWorker.Cache

variable {α τ : Type} {handle : Handler τ} {st : Storage} {t : τ}

/-- What only looks up entries leaves a storage as it is. -/
theorem Host.run_of_reads {m : Job α} (h : Asks Question.Reads m) :
    (m.run (keeping Storage.perform handle) (st, t)).2.1 = st := by
  have hruns := h.runs
  clear h
  induction m generalizing t with
  | done a => rfl
  | ask q next ih =>
    have hstep : (keeping Storage.perform handle q (st, t)).2.1 = st := by
      cases q with
      | store op =>
        cases op with
        | get g url =>
          rcases hr : handle (.store (.get g url)) t with ⟨e | a, t'⟩
          · simp only [keeping, hr]
          · simp only [keeping, hr, Storage.perform_get]
        | _ => exact hruns.1.elim
      | _ => rfl
    rw [Action.run]
    generalize keeping Storage.perform handle q (st, t) = answered at hstep ⊢
    obtain ⟨a, st', t'⟩ := answered
    obtain rfl : st' = st := hstep
    exact ih a (hruns.2 a)

namespace Worker

/-- What can be done with a worker. The template for a request may be loaded in so many steps. -/
inductive Deed where
  | loadRoutes
  | install
  | activate
  | resume
  | answer (steps : Nat) (r : Http.Request)

/-- The deed is there to provide the cache with what it holds. -/
def Deed.Fills (d : Deed) : Prop := d = .loadRoutes ∨ d = .install ∨ d = .activate

def perform (w : Worker) : Deed → Job Worker
  | .loadRoutes => do return (← w.loadRoutes).2
  | .install => do return (← w.install).2
  | .activate => do return (← w.activate).2
  | .resume => do return (← w.resume).2
  | .answer steps r => do return (← w.answerWithin steps r).2

def performAll (w : Worker) : List Deed → Job Worker
  | [] => return w
  | d :: ds => do (← w.perform d).performAll ds

theorem performAll_append (w : Worker) (ds more : List Deed) :
    w.performAll (ds ++ more) = w.performAll ds >>= fun w' => w'.performAll more := by
  induction ds generalizing w with
  | nil => rfl
  | cons d ds ih =>
    show w.perform d >>= _ = (w.perform d >>= _) >>= _
    rw [LawfulMonad.bind_assoc]
    exact congrArg _ (funext fun w' => ih w')

theorem asks_resume (w : Worker) : Asks Question.Reads w.resume := by
  unfold resume
  have hready : Asks Question.Reads w.cache.isReady.run := (asks_store trivial).attempt fun _ => asks_pure _
  refine hready.bind fun ready => ?_
  split
  · exact (asks_enter (fun _ => trivial) w _).bind fun _ => asks_pure _
  · exact asks_pure _
  · exact asks_pure _

/-- All other deeds ask for nothing but entries. -/
theorem asks_perform (w : Worker) {d : Deed} (hd : ¬ d.Fills) : Asks Question.Reads (w.perform d) := by
  cases d with
  | loadRoutes => exact absurd (.inl rfl) hd
  | install => exact absurd (.inr (.inl rfl)) hd
  | activate => exact absurd (.inr (.inr rfl)) hd
  | resume => exact w.asks_resume.bind fun _ => asks_pure _
  | answer steps r => exact (w.asks_answerWithin steps r).bind fun _ => asks_pure _

theorem asks_performAll (w : Worker) {ds : List Deed} (hds : ∀ d ∈ ds, ¬ d.Fills) :
    Asks Question.Reads (w.performAll ds) := by
  induction ds generalizing w with
  | nil => exact asks_pure _
  | cons d ds ih =>
    exact (w.asks_perform (hds d List.mem_cons_self)).bind fun w' => ih w' fun x hx => hds x (List.mem_cons_of_mem _ hx)

/-- **Answering a request leaves the storage as it is**: in memory or in a store of single values, with whatever it has,
whatever the network answers and the storage refuses, in every phase, and whatever comes of the request. Of all that can
be done with a worker, only loading its routes, installing and activating it ever ask a storage for anything but an
entry. So after any row of deeds the storage is the one that the last of these has left. -/
theorem storage_kept (w : Worker) :
    (∀ (τ : Type) (handle : Handler τ) (st : Storage) (t : τ) (steps : Nat) (r : Http.Request),
      ((w.answerWithin steps r).run (keeping Storage.perform handle) (st, t)).2.1 = st) ∧
    (∀ (σ : Type) (handle : Handler σ) (s : σ) (d : Deed), ∀ x ∈ (w.perform d).exchanges handle s,
      ¬ x.1.Reads → d = .loadRoutes ∨ d = .install ∨ d = .activate) ∧
    ∀ (τ : Type) (handle : Handler τ) (st : Storage) (t : τ) (ds more : List Deed), (∀ d ∈ more, ¬ d.Fills) →
      ((w.performAll (ds ++ more)).run (keeping Storage.perform handle) (st, t)).2.1 =
        ((w.performAll ds).run (keeping Storage.perform handle) (st, t)).2.1 := by
  refine ⟨fun τ handle st t steps r => run_of_reads (w.asks_answerWithin steps r), fun σ handle s d x hx hreads => ?_,
    fun τ handle st t ds more hmore => ?_⟩
  · by_contra hd
    exact hreads ((w.asks_perform hd).runs.exchanges (ends_run handle _ s) x hx)
  · rw [performAll_append, run_do]
    obtain ⟨w', st', t'⟩ := (w.performAll ds).run (keeping Storage.perform handle) (st, t)
    exact run_of_reads (w'.asks_performAll hmore)

/-- A worker that was installed and activated has written its resource and its mark; a request that it forwards writes
nothing more. -/
theorem storage_kept_of_request :
    let blank := Template.serving fun _ => .ok emptyResponse
    let after := fun ds => ((ofLone.performAll ds).run (keeping Storage.perform blank) (.keyValue .empty, ())).2.1
    after [.install, .activate, .answer 0 rootRequest] = after [.install, .activate] ∧
      ((after [.install, .activate]).perform .generations).1 = .ok ["cs-htmx"] ∧
      ((after [.install, .activate]).perform (.get "cs-htmx" readyMarker)).1 = .ok (some (.of 204 [] .epoch)) := by
  intro blank after
  have hkept : after ([.install, .activate] ++ [.answer 0 rootRequest]) = after [.install, .activate] :=
    (storage_kept ofLone).2.2 Unit blank _ () [.install, .activate] [.answer 0 rootRequest] (by simp [Deed.Fills])
  exact ⟨hkept, by decide +kernel, by decide +kernel⟩

end Worker
end EdgeWorker
