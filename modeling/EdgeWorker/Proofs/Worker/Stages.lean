import EdgeWorker.Proofs.Route.Load
import EdgeWorker.Proofs.Worker.Lifecycle
import EdgeWorker.Worker.Serve

/-!
Serving a request in two parts: what is done before the worker answers (`start`), and the rest, which changes nothing
that is stored (`asks_finish`). `serve_eq` puts both together.

* `Readiness` — how far a worker gets with being active, with `prepare`, which finds out;
* `yields_prepare`, `table_of_run_start` — the table of a worker is the one that was loaded.
-/

namespace EdgeWorker.Worker

open EdgeWorker.Action EdgeWorker.Host EdgeWorker.Http EdgeWorker.Json

/-! ### Becoming active -/

/-- How far a worker gets with being active. -/
inductive Readiness where
  /-- Whether its generation is marked cannot be told. -/
  | unknown (e : Error)
  /-- The generation was marked already. -/
  | resumed
  | notInstalled (e : Error)
  /-- It is installed, but the activation failed. -/
  | notActivated (e : Error)
  /-- It is installed and activated. -/
  | completed

/-- What a worker reports of its readiness: whether it was installed and activated. -/
def Readiness.outcome : Readiness → Except Error Bool
  | unknown e | notInstalled e | notActivated e => .error e
  | resumed => .ok false
  | completed => .ok true

/-- Makes a worker active; how far it gets. -/
def prepare (w : Worker) : Job (Readiness × Worker) := do
  match ← w.resume with
  | (.error e, w) => return (.unknown e, w)
  | (.ok true, w) => return (.resumed, w)
  | (.ok false, w) =>
    match ← w.install with
    | (.error e, w) => return (.notInstalled e, w)
    | (.ok _, w) =>
      match ← w.activate with
      | (.error e, w) => return (.notActivated e, w)
      | (.ok _, w) => return (.completed, w)

theorem ensureReady_eq (w : Worker) :
    w.ensureReady = w.prepare >>= fun prepared => pure (prepared.1.outcome, prepared.2) := by
  unfold ensureReady prepare
  rw [LawfulMonad.bind_assoc]
  congr 1
  funext resumed
  obtain ⟨e | ⟨⟨⟩⟩, w⟩ := resumed
  · rfl
  · dsimp only
    rw [LawfulMonad.bind_assoc]
    congr 1
    funext installed
    obtain ⟨e | n, w⟩ := installed
    · rfl
    · dsimp only
      rw [LawfulMonad.bind_assoc]
      congr 1
      funext activated
      obtain ⟨e | names, w⟩ := activated <;> rfl
  · rfl

/-! ### Requests -/

/-- A request up to where its worker answers, or a response where there is no worker. -/
def start (c : Config) (r : Request) : Attempt Response (Request × Readiness × Worker) :=
  match readdress r c with
  | .error e => throw (bare .badRequest e.message)
  | .ok r => ExceptT.mk do
    match ← (bootstrap c).run with
    | .error e =>
      report .error "failed to start interceptor" (Log.errorField e.message)
      return .error (bare .internalServerError "Error handling request")
    | .ok w =>
      let (readiness, w) ← w.prepare
      return .ok (r, readiness, w)

def finish (r : Request) (readiness : Readiness) (w : Worker) : Job Response := do
  match readiness.outcome with
  | .ok true =>
    report .info "cache generation installed and activated" ("generation", .string w.cache.generation)
  | .ok false => pure ()
  | .error e => report .error "cache lifecycle failed, forwarding unrouted" (Log.errorField e.message)
  match (← w.answer r).1 with
  | .ok response => return response
  | .error e =>
    report .error "upstream fetch failed" (Log.errorField e.message)
    return bare .badGateway "Bad Gateway"

theorem serveWith_eq (w : Worker) (r : Request) :
    w.serveWith r = w.prepare >>= fun prepared => finish r prepared.1 prepared.2 := by
  unfold serveWith
  rw [ensureReady_eq, LawfulMonad.bind_assoc]
  rfl

/-- A request is served in two parts. -/
theorem serve_eq (c : Config) (r : Request) : serve c r = (start c r).run >>= fun
    | .error response => pure response
    | .ok (r, readiness, w) => finish r readiness w := by
  unfold serve start
  cases readdress r c with
  | error e => rfl
  | ok r =>
    show (bootstrap c).run >>= _ = (bootstrap c).run >>= _ >>= _
    rw [LawfulMonad.bind_assoc]
    congr 1
    funext booted
    cases booted with
    | error e => rfl
    | ok w =>
      dsimp only
      rw [serveWith_eq, LawfulMonad.bind_assoc]
      rfl

/-- The rest of a request asks what the answer asks, and to log. -/
theorem asks_finish_of {P : Question → Prop} (hlog : ∀ record, P (.log record)) {r : Request} {w : Worker}
    (hanswer : Asks P (w.answer r)) (readiness : Readiness) : Asks P (finish r readiness w) := by
  have hresponse : Asks P (do
      match (← w.answer r).1 with
      | .ok response => return response
      | .error e =>
        report .error "upstream fetch failed" (Log.errorField e.message)
        return bare .badGateway "Bad Gateway" : Job Response) := by
    refine hanswer.bind fun answered => ?_
    obtain ⟨e | response, _⟩ := answered
    · exact Asks.bind (asks_log (hlog _)) fun _ => asks_pure _
    · exact asks_pure _
  unfold finish
  cases readiness.outcome with
  | error e => exact Asks.bind (asks_log (hlog _)) fun _ => hresponse
  | ok installed =>
    cases installed with
    | false => exact hresponse
    | true => exact Asks.bind (asks_log (hlog _)) fun _ => hresponse

theorem asks_finish (r : Request) (readiness : Readiness) (w : Worker) : Asks Question.Reads (finish r readiness w) :=
  asks_finish_of (fun _ => trivial) (w.asks_answer r) readiness

/-! ### Tables -/

theorem yields_resume (w : Worker) : Yields (fun p => ∃ phase, p.2 = { w with phase }) w.resume := by
  unfold resume
  refine yields_bind fun ready => ?_
  split
  · exact (w.yields_enter _).bind fun w' hw' => yields_pure ⟨_, hw'⟩
  · exact yields_pure ⟨w.phase, rfl⟩
  · exact yields_pure ⟨w.phase, rfl⟩

/-- Whatever is done to make a worker active, only its phase changes. -/
theorem yields_prepare (w : Worker) : Yields (fun p => ∃ phase, p.2 = { w with phase }) w.prepare := by
  unfold prepare
  refine w.yields_resume.bind ?_
  rintro ⟨e | ⟨⟨⟩⟩, _⟩ ⟨phase, rfl⟩
  · exact yields_pure ⟨phase, rfl⟩
  · refine (yields_install _).bind ?_
    rintro _ (⟨n, rfl⟩ | ⟨e, rfl⟩)
    · refine (yields_activate _).bind ?_
      rintro _ (⟨names, rfl⟩ | ⟨e, rfl⟩) <;> exact yields_pure ⟨_, rfl⟩
    · exact yields_pure ⟨_, rfl⟩
  · exact yields_pure ⟨phase, rfl⟩

theorem bootstrap_of_error {c : Config} {e : ConfigError} (hw : of c = .error e) :
    (bootstrap c).run = pure (.error e) := by
  unfold bootstrap
  rw [hw]
  rfl

theorem bootstrap_eq {c : Config} {w : Worker} (hw : of c = .ok w) : (bootstrap c).run =
    w.table.loadOrLog w.cache w.config.routesFile >>= fun loaded => pure (.ok { w with table := loaded.2 }) := by
  unfold bootstrap
  rw [hw, settled_bind, lift_bind]
  unfold loadRoutes
  rw [LawfulMonad.bind_assoc]
  rfl

/-- The worker of a request has the routes of the manifest that the network answers with first of all. -/
theorem table_of_run_start {σ : Type} {handle : Handler σ} {s : σ} {c : Config} {r r' : Request} {w w' : Worker}
    {readiness : Readiness} (hw : of c = .ok w)
    (h : ((start c r).run.run handle s).1 = .ok (r', readiness, w')) :
    w'.table = match ((Route.fetchManifest w.table.scope w.config.routesFile).run.run handle s).1 with
      | .ok m => w.table.addAll m
      | .error _ => w.table := by
  unfold start at h
  cases hr : readdress r c with
  | error e =>
    rw [hr] at h
    cases h
  | ok request =>
    rw [hr] at h
    dsimp only at h
    rw [ExceptT.run_mk, bootstrap_eq hw, LawfulMonad.bind_assoc, run_do] at h
    simp only [pure_bind, run_do, run_pure] at h
    generalize hloaded : (w.table.loadOrLog w.cache w.config.routesFile).run handle s = loaded at h
    obtain ⟨phase, hkept⟩ := (yields_prepare { w with table := loaded.1.2 }).runs.result handle loaded.2
    cases h
    rw [hkept, ← hloaded]
    exact Route.Table.run_loadOrLog_table handle w.table w.cache _ s

end EdgeWorker.Worker
