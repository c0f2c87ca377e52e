import EdgeWorker.Worker.Basic

/-!
The life of a worker: it stores what its routes need, prunes what older workers have stored, and is
active from then on. A later worker finds the mark that an earlier one has left and need not do so
again.
-/

namespace EdgeWorker.Worker

open EdgeWorker.Host

/-- Stores everything that has to be cached. A worker that fails to do so becomes redundant. -/
def install (w : Worker) : Job (Except Error Nat × Worker) := do
  let w ← w.enter .installing
  match ← (w.cache.install w.table.manifest).run with
  | .ok count => return (.ok count, ← w.enter .installed)
  | .error e =>
    log ⟨.error, Log.interceptorTarget, "install failed", [Log.errorField e.message]⟩
    return (.error (.cache e), ← w.enter .redundant)

/-- Deletes all other generations and marks the current one as complete. -/
def activate (w : Worker) : Job (Except Error (List String) × Worker) := do
  let w ← w.enter .activating
  let pruned : Attempt Cache.Error (List String) := do
    let pruned ← w.cache.activate
    w.cache.markReady
    return pruned
  match ← pruned.run with
  | .ok names => return (.ok names, ← w.enter .activated)
  | .error e => return (.error (.cache e), w)

/-- Makes the worker active if the current generation is marked as complete; whether it is. -/
def resume (w : Worker) : Job (Except Error Bool × Worker) := do
  match ← w.cache.isReady.run with
  | .ok true => return (.ok true, ← w.enter .activated)
  | .ok false => return (.ok false, w)
  | .error e => return (.error (.cache e), w)

/-- Makes the worker active, by installing and activating it where the current generation is not
complete yet; whether that was so. -/
def ensureReady (w : Worker) : Job (Except Error Bool × Worker) := do
  match ← w.resume with
  | (.error e, w) => return (.error e, w)
  | (.ok true, w) => return (.ok false, w)
  | (.ok false, w) =>
    match ← w.install with
    | (.error e, w) => return (.error e, w)
    | (.ok _, w) =>
      match ← w.activate with
      | (.error e, w) => return (.error e, w)
      | (.ok _, w) => return (.ok true, w)

end EdgeWorker.Worker
