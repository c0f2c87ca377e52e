import EdgeWorker.Proofs.Rpc.Dispatch

/-!
What a dispatcher answers to any body.

* `Calls` — the bodies that are calls of a method (`callOf?_eq_some_iff`);
* `serves_of` — the three ways in which a call of a method ends (`ends_dispatch_failure_iff`, `ends_dispatch_handled`);
* `Gives`, `Reply.Tells` — what the handler that is run is given, and what the reply holds of how it ended;
* `dispatch_classified` — every body is answered with a result or a failure; a body that is no call, a method that no route
  names and one without a handler are told apart in this order, and only behind them a handler is run, and then once.
-/

namespace EdgeWorker.Rpc

open EdgeWorker.Action EdgeWorker.Json

variable {m : Route.Manifest} {registered : List String} {d : Dispatcher} {body : Bytes} {request params : Value}
  {method : String} {t : List (Exchange DispatchAnswer)} {handled : List (String × Value × Outcome)} {reply : Reply}

/-! ### Bodies -/

/-- A body is a call of a method: a JSON object whose method is a text, and whose parameters are there and not null. -/
def Calls (body : Bytes) (method : String) (params : Value) : Prop :=
  ∃ members, Value.ofBytes? body = some (.object members) ∧ members.lookup "method" = some (.string method) ∧
    members.lookup "params" = some params ∧ params ≠ .null

theorem callOf?_eq_some_iff : callOf? request = some (method, params) ↔
    request.member? "method" = some (.string method) ∧ request.member? "params" = some params ∧ params ≠ .null := by
  unfold callOf?
  constructor
  · intro h
    split at h
    · cases h
    · next method' params' hnull hmethod hparams =>
      cases h
      obtain ⟨v, hv, hstring⟩ := Option.bind_eq_some_iff.1 hmethod
      cases v with
      | string s =>
        cases hstring
        exact ⟨hv, hparams, hnull⟩
      | _ => cases hstring
    · cases h
  · rintro ⟨hmethod, hparams, hnull⟩
    rw [hmethod, hparams]
    cases params with
    | null => exact absurd rfl hnull
    | _ => rfl

/-- A value with a member is an object. -/
theorem exists_object {name : String} {v : Value} (h : request.member? name = some v) :
    ∃ members, request = .object members := by
  cases request with
  | object members => exact ⟨members, rfl⟩
  | _ => cases h

theorem calls_iff : Calls body method params ↔ ∃ request, Value.ofBytes? body = some request ∧
    callOf? request = some (method, params) := by
  simp only [callOf?_eq_some_iff]
  constructor
  · rintro ⟨members, hbody, hmembers⟩
    exact ⟨_, hbody, hmembers⟩
  · rintro ⟨request, hbody, hmethod, hparams⟩
    obtain ⟨members, rfl⟩ := exists_object hmethod
    exact ⟨members, hbody, hmethod, hparams⟩

/-- What a handler is given for the parameters of a call: the element of an array of one, and else the parameters
themselves. -/
inductive Gives : Value → Value → Prop
  | sole {v : Value} : Gives (.array [v]) v
  | whole {params : Value} : (∀ v, params ≠ .array [v]) → Gives params params

theorem gives_argument (params : Value) : Gives params (argument params) := by
  unfold argument
  split
  · exact .sole
  · next hnone => exact .whole hnone

/-! ### Replies -/

/-- What is no call is told so, and no handler is run. -/
theorem ends_dispatch_invalid (hbody : ∀ method params, ¬ Calls body method params) (h : (d.dispatch body).Ends t reply) :
    reply = (Reply.failed invalidRequest).withId ((Value.ofBytes? body).bind (Value.member? "id")) ∧ handlings t = [] := by
  simp only [calls_iff, not_exists, not_and] at hbody
  unfold Dispatcher.dispatch Dispatcher.report at h
  cases hvalue : Value.ofBytes? body with
  | none =>
    rw [hvalue] at h
    obtain ⟨t₁, ht₁, h⟩ := ends_log_bind h
    obtain ⟨rfl, rfl⟩ := ends_pure.1 h
    exact ⟨rfl, ht₁⟩
  | some request =>
    rw [hvalue] at h
    have hcall : callOf? request = none := Option.eq_none_iff_forall_not_mem.2 fun call hc =>
      hbody call.1 call.2 request hvalue hc
    dsimp only at h
    rw [hcall] at h
    obtain ⟨t₁, ht₁, h⟩ := ends_log_bind h
    obtain ⟨rfl, rfl⟩ := ends_pure.1 h
    exact ⟨rfl, ht₁⟩

/-- What is a call is served, and the reply has the identifier of the body. -/
theorem ends_dispatch_call (hbody : Calls body method params) (h : (d.dispatch body).Ends t reply) : ∃ served,
    reply = served.withId ((Value.ofBytes? body).bind (Value.member? "id")) ∧
      Serves d method (argument params) (handlings t) served := by
  obtain ⟨request, hvalue, hcall⟩ := calls_iff.1 hbody
  rw [hvalue]
  exact ends_dispatch hvalue hcall h

/-- How a dispatcher of a manifest serves a call of a method. -/
theorem serves_of : Serves (.of m registered) method params handled reply ↔
    ¬ Names m method ∧ reply = .failed routeNotFound ∧ handled = [] ∨
      Names m method ∧ method ∉ registered ∧ reply = .failed methodNotFound ∧ handled = [] ∨
      Names m method ∧ method ∈ registered ∧ ∃ outcome, handled = [(method, params, outcome)] ∧ reply = outcome.reply method := by
  have hnamed : ((Dispatcher.of m registered).routeFor method).isNone = true ↔ ¬ Names m method := by
    rw [routeFor_of, ← isSome_routeFor_ofManifest, Option.isNone_iff_eq_none, Option.not_isSome_iff_eq_none]
  unfold Serves
  by_cases hn : Names m method
  · rw [if_neg fun h => hnamed.1 h hn]
    by_cases hr : method ∈ registered
    · rw [if_pos ((contains_handled_of ..).2 hr)]
      simp [hn, hr]
    · rw [if_neg fun h => hr ((contains_handled_of ..).1 h)]
      simp [hn, hr]
  · rw [if_pos (hnamed.2 hn)]
    simp [hn]

/-- What the dispatcher itself has to say about a call, and when. -/
theorem Serves.failure_iff (h : Serves (.of m registered) method params handled reply) (message : String) :
    reply.failure = some (.of message) ∧ handled = [] ↔ ¬ Names m method ∧ message = routeNotFound ∨
      Names m method ∧ method ∉ registered ∧ message = methodNotFound := by
  obtain ⟨hn, rfl, rfl⟩ | ⟨hn, hr, rfl, rfl⟩ | ⟨hn, hr, outcome, rfl, -⟩ := serves_of.1 h
  · simp [hn, Reply.failed, Failure.of, eq_comm]
  · simp [hn, hr, Reply.failed, Failure.of, eq_comm]
  · simp [hn, hr]

/-- There is a result or a failure, and not both. -/
def Reply.IsOne (r : Reply) : Prop := r.result.isSome ↔ r.failure.isNone

theorem Reply.IsOne.failed (message : String) : (Reply.failed message).IsOne := ⟨nofun, nofun⟩

theorem Serves.isOne (h : Serves d method params handled reply) : reply.IsOne := by
  unfold Serves at h
  split at h
  · exact h.1 ▸ Reply.IsOne.failed _
  · split at h
    · obtain ⟨outcome, -, rfl⟩ := h
      cases outcome with
      | returned v => exact ⟨fun _ => rfl, fun _ => rfl⟩
      | failed message => exact Reply.IsOne.failed message
      | panicked => exact Reply.IsOne.failed _
    · exact h.1 ▸ Reply.IsOne.failed _

/-- The reply holds how a handler has ended: what it returned and no failure, or no result and the message that it failed
with, or that it broke down. -/
def Reply.Tells (r : Reply) (method : String) : Outcome → Prop
  | .returned v => r.result = some v ∧ r.failure = none
  | .failed message => r.result = none ∧ r.failure = some (.coded message none)
  | .panicked => r.result = none ∧ r.failure = some (.coded s!"{method} panicked" none)

theorem Outcome.tells_reply (outcome : Outcome) (method : String) (id : Option Value) :
    ((outcome.reply method).withId id).Tells method outcome := by
  cases outcome <;> exact ⟨rfl, rfl⟩

/-- There is always a reply with a result or a failure, and it has the identifier of the body. -/
theorem ends_dispatch_reply (h : (d.dispatch body).Ends t reply) :
    reply.IsOne ∧ reply.id = (Value.ofBytes? body).bind (Value.member? "id") := by
  by_cases hbody : ∃ method params, Calls body method params
  · obtain ⟨method, params, hcall⟩ := hbody
    obtain ⟨served, rfl, hserves⟩ := ends_dispatch_call hcall h
    exact ⟨hserves.isOne, rfl⟩
  · obtain ⟨rfl, -⟩ := ends_dispatch_invalid (fun method params hcall => hbody ⟨method, params, hcall⟩) h
    exact ⟨Reply.IsOne.failed _, rfl⟩

/-- What a call is told without a handler. -/
theorem ends_dispatch_failure_iff (hcall : Calls body method params)
    (h : ((Dispatcher.of m registered).dispatch body).Ends t reply) (message : String) :
    reply.failure = some (.of message) ∧ handlings t = [] ↔ ¬ Names m method ∧ message = routeNotFound ∨
      Names m method ∧ method ∉ registered ∧ message = methodNotFound := by
  obtain ⟨served, rfl, hserves⟩ := ends_dispatch_call hcall h
  exact hserves.failure_iff message

/-- A handler that there is decides the reply. -/
theorem ends_dispatch_handled (hcall : Calls body method params) (hn : Names m method) (hr : method ∈ registered)
    (h : ((Dispatcher.of m registered).dispatch body).Ends t reply) :
    ∃ outcome, handlings t = [(method, argument params, outcome)] ∧ reply.Tells method outcome := by
  obtain ⟨served, rfl, hserves⟩ := ends_dispatch_call hcall h
  obtain ⟨hno, -⟩ | ⟨-, hno, -⟩ | ⟨-, -, outcome, hone, rfl⟩ := serves_of.1 hserves
  · exact absurd hn hno
  · exact absurd hr hno
  · exact ⟨outcome, hone, outcome.tells_reply method _⟩

variable {σ : Type}

/-- Every body is answered with a result or a failure, and with the identifier that it has. Where it is no call that is told,
else whether no route names the method, else whether there is no handler for it; in these cases no handler is run. Else the
handler is run once, with the sole element of an array of one or with the parameters themselves, and the reply tells what it
returned, what it failed with, or that it broke down. A handler may fail in the dispatcher's own words, so what the
dispatcher says is told from that by its having run none. -/
theorem dispatch_classified (m : Route.Manifest) (registered : List String)
    (backend : (q : DispatchQuestion) → σ → DispatchAnswer q × σ) (s : σ) (body : Bytes) :
    let d := Dispatcher.of m registered
    let reply := ((d.dispatch body).run backend s).1
    let handled := handlings ((d.dispatch body).exchanges backend s)
    (reply.result.isSome ↔ reply.failure.isNone) ∧
      reply.id = (Value.ofBytes? body).bind (Value.member? "id") ∧
      (reply.failure = some (.coded "Invalid request" none) ∧ handled = [] ↔ ¬ ∃ method params, Calls body method params) ∧
      ∀ method params, Calls body method params →
        (reply.failure = some (.coded "Route not found" none) ∧ handled = [] ↔ ¬ Names m method) ∧
        (Names m method → (reply.failure = some (.coded "Method not found" none) ∧ handled = [] ↔ method ∉ registered)) ∧
        (Names m method → method ∈ registered → ∃ given s', let outcome := (backend (.handle method given) s').1
          Gives params given ∧ handled = [(method, given, outcome)] ∧ reply.Tells method outcome) := by
  intro d reply handled
  have hends : (d.dispatch body).Ends _ reply := ends_run backend (d.dispatch body) s
  obtain ⟨hone, hid⟩ := ends_dispatch_reply hends
  refine ⟨hone, hid, ?_, fun method params hcall => ⟨?_, fun hn => ?_, fun hn hr => ?_⟩⟩
  · constructor
    · rintro hinvalid ⟨method, params, hcall⟩
      have hfailure := (ends_dispatch_failure_iff hcall hends _).1 hinvalid
      simp [routeNotFound, methodNotFound] at hfailure
    · intro hno
      obtain ⟨hreply, hnone⟩ := ends_dispatch_invalid (fun method params hcall => hno ⟨method, params, hcall⟩) hends
      exact ⟨congrArg Reply.failure hreply, hnone⟩
  · refine (ends_dispatch_failure_iff hcall hends _).trans ?_
    simp [routeNotFound, methodNotFound]
  · refine (ends_dispatch_failure_iff hcall hends _).trans ?_
    simp [hn, methodNotFound]
  · obtain ⟨outcome, hhandled, htells⟩ := ends_dispatch_handled hcall hn hr hends
    have hrun : (method, argument params, outcome) ∈ handlings ((d.dispatch body).exchanges backend s) :=
      hhandled ▸ List.mem_singleton_self _
    obtain ⟨s', hs'⟩ := exists_state_of_mem_exchanges (mem_of_mem_handlings hrun)
    have houtcome : (backend (.handle method (argument params)) s').1 = outcome := hs'.symm
    refine ⟨argument params, s', gives_argument params, ?_⟩
    rw [houtcome]
    exact ⟨hhandled, htells⟩

def endingIn (outcome : Outcome) : (q : DispatchQuestion) → Unit → DispatchAnswer q × Unit
  | .log _, s => ((), s)
  | .handle _ _, s => (outcome, s)

/-- A handler that breaks down is run once all the same, and its caller is told. What another one returns is the result. -/
theorem dispatch_classified_of_panicking : let d := Dispatcher.of (.ofList [("a", .compact "f@api")]) ["f"]
    ∃ body, Calls body "f" (.array [.null]) ∧
      ((d.dispatch body).run (endingIn .panicked) ()).1.failure = some (.coded "f panicked" none) ∧
      ((d.dispatch body).run (endingIn .panicked) ()).1.id = some (.int 1) ∧
      handlings ((d.dispatch body).exchanges (endingIn .panicked) ()) = [("f", .null, .panicked)] ∧
      ((d.dispatch body).run (endingIn (.returned (.bool true))) ()).1.result = some (.bool true) := by
  intro d
  -- the text is one of which only the reading is known, the run of the dispatcher on it is not evaluated
  obtain ⟨body, hbody⟩ : ∃ body, Value.ofBytes? body = some (Value.ofMembers (Call.members "f" .null)) :=
    ⟨_, Call.ofBytes?_text .null⟩
  have hcall : Calls body "f" (.array [.null]) := calls_iff.2 ⟨_, hbody, callOf?_call⟩
  have hnamed : Names (.ofList [("a", .compact "f@api")]) "f" := isSome_routeFor_ofManifest.1 (by decide +kernel)
  obtain ⟨-, hid, -, hserved⟩ := dispatch_classified (.ofList [("a", .compact "f@api")]) ["f"] (endingIn .panicked) () body
  obtain ⟨given, _, hgives, hhandled, -, hfailure⟩ := (hserved "f" _ hcall).2.2 hnamed List.mem_cons_self
  have hgiven : given = .null := by
    cases hgives with
    | sole => rfl
    | whole hnone => exact absurd rfl (hnone _)
  obtain ⟨-, -, -, hreturned⟩ :=
    dispatch_classified (.ofList [("a", .compact "f@api")]) ["f"] (endingIn (.returned (.bool true))) () body
  obtain ⟨_, _, -, -, hresult, -⟩ := (hreturned "f" _ hcall).2.2 hnamed List.mem_cons_self
  refine ⟨body, hcall, hfailure, ?_, hgiven ▸ hhandled, hresult⟩
  rw [hid, hbody]
  show (Value.ofMembers (Call.members "f" .null)).member? "id" = _
  exact member?_id_call

end EdgeWorker.Rpc
