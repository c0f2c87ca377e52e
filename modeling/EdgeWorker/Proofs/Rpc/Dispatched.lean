import EdgeWorker.Proofs.Rpc.Dispatch
import EdgeWorker.Proofs.Rpc.Request
import EdgeWorker.Proofs.Template.Run

/-!
A call that a dispatcher answers.

* `run_invoke` — what a call is, once its address can be asked: one question to the network, and the result in the answer;
* `Endpoint` — a dispatcher behind a target, and the handlers that it runs for what a job fetches (`Endpoint.handledIn`);
* `resultOf_reply` — the result that the caller finds in a reply is the outcome of the handler;
* `invoke_dispatched` — the caller gets what the handler returned, or is told why there is nothing.
-/

namespace EdgeWorker.Rpc

open EdgeWorker.Action EdgeWorker.Host EdgeWorker.Json

/-! ### The caller -/

/-- A failure is reported. -/
def reportOf (path method : String) : Except Error Value → Job Unit
  | .error e => log ⟨.error, Log.rpcTarget, "RPC call failed",
      [("rpc_path", .string path), ("method", .string method), Log.errorField e.message]⟩
  | .ok _ => pure ()

variable {scope : Scope} {path method : String} {params : Value} {url : Url} {q : Http.Request}

/-- A call asks the network once, and may then report a failure. -/
theorem run_invoke (hurl : scope.resolve path = .ok url) (hq : Fetch.getRequest url = .ok q) :
    (invoke scope path method params).run = .ask (.fetch (posted (.of method params) q)) fun answer =>
      reportOf path method (received url (.of method params) answer) >>= fun _ =>
        pure (received url (.of method params) answer) := by
  have haddress : (scope.resolve path).mapError (Error.address path) = .ok url := by
    rw [hurl]
    rfl
  unfold invoke
  rw [haddress, settled_bind]
  show (liftM (call url (.of method params)).run >>= _ : Attempt Error Value).run = _
  rw [lift_bind, run_call hq]
  generalize posted (.of method params) q = request
  generalize received url (.of method params) = outcome
  refine congrArg (Action.ask (Question.fetch request)) (funext fun answer => ?_)
  show (done (outcome answer)).bind _ = _
  rw [done_bind]
  cases outcome answer <;> rfl

theorem run_reportOf_bind {σ : Type} (handle : Handler σ) (outcome : Except Error Value) (s : σ) :
    ((reportOf path method outcome >>= fun _ => pure outcome).run handle s).1 = outcome := by
  cases outcome <;> rfl

theorem asks_reportOf (outcome : Except Error Value) :
    Asks Question.IsLocal (reportOf path method outcome >>= fun _ => pure outcome) := by
  cases outcome with
  | error e => exact (asks_log trivial).bind fun _ => asks_pure _
  | ok v => exact asks_pure _

/-! ### The other side -/

/-- A dispatcher behind a target, and the surroundings of its handlers. -/
structure Endpoint (σ : Type) where
  target : Http.Target
  dispatcher : Dispatcher
  backend : (q : DispatchQuestion) → σ → DispatchAnswer q × σ

namespace Endpoint

variable {α σ : Type}

def reply (e : Endpoint σ) (body : Bytes) (s : σ) : Bytes := ((e.dispatcher.dispatchBytes body).run e.backend s).1

def handled (e : Endpoint σ) (body : Bytes) (s : σ) : List (String × Value × Outcome) :=
  handlings ((e.dispatcher.dispatchBytes body).exchanges e.backend s)

/-- Whatever is sent to the target is a success with the reply to its body. -/
def Answers (e : Endpoint σ) (handle : Handler σ) : Prop :=
  ∀ r s, r.target = e.target → ∃ headers, (handle (.fetch r) s).1 = .ok ⟨.ok, headers, e.reply r.body s⟩

/-- The handlers that are run for a question. -/
def handledFor (e : Endpoint σ) : Question → σ → List (String × Value × Outcome)
  | .fetch r, s => if r.target = e.target then e.handled r.body s else []
  | _, _ => []

def handledIn (e : Endpoint σ) (handle : Handler σ) : Job α → σ → List (String × Value × Outcome)
  | .done _, _ => []
  | .ask q next, s => e.handledFor q s ++ e.handledIn handle (next (handle q s).1) (handle q s).2

/-- What does not ask the network runs no handler. -/
theorem handledIn_of_local (e : Endpoint σ) (handle : Handler σ) {m : Job α} (hm : Asks Question.IsLocal m) (s : σ) :
    e.handledIn handle m s = [] := by
  replace hm := hm.runs
  induction m generalizing s with
  | done a => rfl
  | ask q next ih =>
    have hq : e.handledFor q s = [] := by
      cases q with
      | fetch r => exact hm.1.elim
      | _ => rfl
    rw [handledIn, hq, List.nil_append]
    exact ih (handle q s).1 (handle q s).2 (hm.2 _)

end Endpoint

/-! ### Both together -/

/-- What the caller gets where a handler has ended. -/
def Outcome.result (method : String) : Outcome → Except Error Value
  | returned v => .ok v
  | failed message => .error (.failure method message)
  | panicked => .error (.failure method s!"{method} panicked")

theorem resultOf_of_isSuccess {c : Call} {response : Http.Response} (h : response.isSuccess) :
    resultOf url c response =
      match Reply.reader.ofBytes? response.body with
      | none => .error (.malformed "the body is no reply")
      | some reply => reply.outcome.mapError (.failure c.method) := by
  unfold resultOf Http.Response.orStatus
  rw [if_pos h]
  rfl

theorem resultOf_of_ofBytes? {c : Call} {headers : Http.Headers} {body : Bytes} {r : Reply}
    (h : Reply.reader.ofBytes? body = some r) :
    resultOf url c ⟨.ok, headers, body⟩ = r.outcome.mapError (.failure c.method) := by
  rw [resultOf_of_isSuccess rfl, h]

theorem resultOf_failed (message : String) (headers : Http.Headers) :
    resultOf url (.of method params) ⟨.ok, headers, Text.bytes ((Reply.failed message).withId (some (.int 1))).text⟩ =
      .error (.failure method message) := by
  obtain ⟨r, hread, houtcome⟩ := ofBytes?_failed message exact_one
  rw [resultOf_of_ofBytes? hread, houtcome]
  rfl

/-- The caller finds the outcome of the handler in the reply. -/
theorem resultOf_reply {outcome : Outcome} (h : ∀ v, outcome = .returned v → v.Exact 126) (headers : Http.Headers) :
    resultOf url (.of method params)
      ⟨.ok, headers, Text.bytes ((outcome.reply method).withId (some (.int 1))).text⟩ = outcome.result method := by
  cases outcome with
  | returned v =>
    obtain ⟨r, hread, houtcome⟩ := ofBytes?_success (h v rfl) exact_one
    rw [Outcome.reply, resultOf_of_ofBytes? hread, houtcome]
    rfl
  | failed message => exact resultOf_failed message headers
  | panicked => exact resultOf_failed _ headers

variable {σ : Type} {e : Endpoint σ} {handle : Handler σ}

/-- A call of what an endpoint answers is served by its dispatcher, which runs no handler but for the call. -/
theorem exists_reply (hurl : scope.resolve path = .ok url) (hq : Fetch.getRequest url = .ok q) (he : e.Answers handle)
    (htarget : e.target = q.target) (hparams : params.Exact 125) (s : σ) : ∃ reply headers t,
      ((invoke scope path method params).run.run handle s).1 = resultOf url (.of method params)
        ⟨.ok, headers, Text.bytes (reply.withId (some (.int 1))).text⟩ ∧
      e.handledIn handle (invoke scope path method params).run s = handlings t ∧
      (∀ x ∈ t, ∃ s', x.2 = (e.backend x.1 s').1) ∧ Serves e.dispatcher method params (handlings t) reply := by
  have hrun : (invoke scope path method params).run = _ := run_invoke hurl hq
  have hsent : (posted (.of method params) q).target = e.target := by rw [target_posted, htarget]
  have hbody := body_posted (.of method params) q
  generalize posted (.of method params) q = request at hrun hsent hbody
  obtain ⟨headers, hanswer⟩ := he request s hsent
  obtain ⟨reply, hbytes, hserves⟩ := ends_call hbody hparams (ends_run e.backend (e.dispatcher.dispatchBytes request.body) s)
  refine ⟨reply, headers, _, ?_, ?_, fun x hx => exists_state_of_mem_exchanges hx, hserves⟩
  · rw [hrun, Action.run, run_reportOf_bind, hanswer, received_ok, Endpoint.reply, hbytes]
  · rw [hrun, Endpoint.handledIn, e.handledIn_of_local handle (asks_reportOf _), List.append_nil, Endpoint.handledFor,
      if_pos hsent, Endpoint.handled]

/-- The result of a call is what its handler returned. Else it tells that no route names the method, that there is no
handler for it, or how the handler failed. A handler that there is runs once, and is given the parameters of the call. -/
theorem invoke_dispatched {m : Route.Manifest} {registered : List String} (hurl : scope.resolve path = .ok url)
    (hq : Fetch.getRequest url = .ok q) (he : e.Answers handle) (htarget : e.target = q.target)
    (hdispatcher : e.dispatcher = .of m registered) (hparams : params.Exact 125)
    (hresults : ∀ s v, (e.backend (.handle method params) s).1 = .returned v → v.Exact 126) (s : σ) :
    let result := ((invoke scope path method params).run.run handle s).1
    let handled := e.handledIn handle (invoke scope path method params).run s
    (¬ Names m method → result = .error (.failure method "Route not found") ∧ handled = []) ∧
      (Names m method → method ∉ registered → result = .error (.failure method "Method not found") ∧ handled = []) ∧
      (Names m method → method ∈ registered → ∃ s', let outcome := (e.backend (.handle method params) s').1
        handled = [(method, params, outcome)] ∧ result = outcome.result method) := by
  intro result handled
  obtain ⟨reply, headers, t, hresult, hhandled, hbackend, hserves⟩ := exists_reply hurl hq he htarget hparams s
  have hnamed : (e.dispatcher.routeFor method).isNone = true ↔ ¬ Names m method := by
    rw [hdispatcher, routeFor_of, ← isSome_routeFor_ofManifest, Option.isNone_iff_eq_none, Option.not_isSome_iff_eq_none]
  have hregistered : e.dispatcher.handled.contains method = true ↔ method ∈ registered := by
    rw [hdispatcher, contains_handled_of]
  unfold Serves at hserves
  refine ⟨fun hn => ?_, fun hn hr => ?_, fun hn hr => ?_⟩
  · rw [if_pos (hnamed.2 hn)] at hserves
    obtain ⟨rfl, hnone⟩ := hserves
    exact ⟨hresult.trans (resultOf_failed _ headers), hhandled.trans hnone⟩
  · rw [if_neg fun h => hnamed.1 h hn, if_neg fun h => hr (hregistered.1 h)] at hserves
    obtain ⟨rfl, hnone⟩ := hserves
    exact ⟨hresult.trans (resultOf_failed _ headers), hhandled.trans hnone⟩
  · rw [if_neg fun h => hnamed.1 h hn, if_pos (hregistered.2 hr)] at hserves
    obtain ⟨outcome, hone, rfl⟩ := hserves
    have hrun : (method, params, outcome) ∈ handlings t := by
      rw [hone]
      exact List.mem_cons_self
    obtain ⟨s', hs'⟩ := hbackend _ (mem_of_mem_handlings hrun)
    have hexact : ∀ v, outcome = .returned v → v.Exact 126 := fun v hv => hresults s' v (hs'.symm.trans hv)
    refine ⟨s', ?_⟩
    rw [← hs']
    exact ⟨hhandled.trans hone, hresult.trans (resultOf_reply hexact headers)⟩

/-- A dispatcher with one method, which returns what it is given. -/
def mirror : Endpoint Unit where
  target := ⟨some "https", "e.c", "/api", none⟩
  dispatcher := .of (.ofList [("a", .compact "f@api")]) ["f"]
  backend
    | .log _, s => ((), s)
    | .handle _ params, s => (.returned params, s)

def mirrored : Handler Unit
  | .fetch r, s => (.ok ⟨.ok, Keyed.empty, mirror.reply r.body s⟩, s)
  | q, s => Template.serving (fun address => .error (.unreachable address)) q s

/-- An array of one null is given to the handler as it is, and comes back. -/
theorem invoke_dispatched_of_mirror :
    ((invoke Template.rootCache.scope "api" "f" (.array [.null])).run.run mirrored ()).1 = .ok (.array [.null]) ∧
      mirror.handledIn mirrored (invoke Template.rootCache.scope "api" "f" (.array [.null])).run () =
        [("f", .array [.null], .returned (.array [.null]))] := by
  have hparams (depth : Nat) : (Value.array [.null]).Exact (depth + 1) := .array fun v hv => by
    rw [List.mem_singleton.1 hv]
    exact .null
  have hnamed : Names (.ofList [("a", .compact "f@api")]) "f" := isSome_routeFor_ofManifest.1 (by decide +kernel)
  have hurl : Template.rootCache.scope.resolve "api" =
      .ok ⟨"https", some ⟨"", none, "e.c", none⟩, .segments ["api"], none, none⟩ := by decide +kernel
  have hq : Fetch.getRequest ⟨"https", some ⟨"", none, "e.c", none⟩, .segments ["api"], none, none⟩ =
      .ok ⟨.get, mirror.target, Keyed.empty, []⟩ := by decide +kernel
  have he : mirror.Answers mirrored := fun r s _ => ⟨Keyed.empty, rfl⟩
  obtain ⟨s', hhandled, hresult⟩ := (invoke_dispatched hurl hq he rfl rfl (hparams 124)
    (fun s v hv => Outcome.returned.inj hv ▸ hparams 125) ()).2.2 hnamed List.mem_cons_self
  exact ⟨hresult, hhandled⟩

end EdgeWorker.Rpc
