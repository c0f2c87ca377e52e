import EdgeWorker.Proofs.Exchange
import EdgeWorker.Proofs.Keyed
import EdgeWorker.Proofs.Rpc.Envelope

/-!
What a dispatcher makes of a call, and which handlers it runs.

* `routeFor_ofManifest` — the path of a method is that of the first route that names it;
* `handlings` — the handlers that were run, with what they were given and how they ended;
* `Serves` — what a dispatcher owes to a call of a method (`ends_reply`, `ends_dispatchBytes`): a handler is run where
  the method has both a route and a handler, and then once.
-/

namespace EdgeWorker.Rpc

open EdgeWorker.Action EdgeWorker.Json

/-! ### Routes -/

/-- The path of a route that names a method. -/
def callPath (method : String) (spec : Route.Spec) : Option String :=
  if spec.rpcFunction = some method then spec.rpcPath else none

theorem get?_addRoute (routes : Keyed String String) (spec : Route.Spec) (method : String) :
    (Dispatcher.addRoute routes spec).get? method = (routes.get? method).or (callPath method spec) := by
  unfold Dispatcher.addRoute callPath
  split
  · next function path hfunction hpath =>
    rw [Keyed.get?_alter, hfunction, hpath]
    by_cases h : method = function
    · subst h
      rw [if_pos rfl, if_pos rfl]
      cases routes.get? method <;> rfl
    · rw [if_neg h, if_neg fun he => h (Option.some.inj he).symm, Option.or_none]
  · next hnone =>
    have hpath : (if spec.rpcFunction = some method then spec.rpcPath else none) = none := by
      split
      · next hfunction =>
        cases hpath : spec.rpcPath with
        | none => rfl
        | some path => exact (hnone method path hfunction hpath).elim
      · rfl
    rw [hpath, Option.or_none]

theorem get?_foldl_addRoute (specs : List Route.Spec) (routes : Keyed String String) (method : String) :
    (specs.foldl Dispatcher.addRoute routes).get? method = (routes.get? method).or (specs.findSome? (callPath method)) := by
  induction specs generalizing routes with
  | nil => rw [List.foldl_nil, List.findSome?_nil, Option.or_none]
  | cons spec specs ih =>
    rw [List.foldl_cons, ih, get?_addRoute, List.findSome?_cons, Option.or_assoc]
    cases callPath method spec <;> rfl

/-- The first route of a method counts. -/
theorem routeFor_ofManifest (m : Route.Manifest) (method : String) :
    (Dispatcher.ofManifest m).routeFor method = (m.specs.map Prod.snd).findSome? (callPath method) := by
  unfold Dispatcher.routeFor Dispatcher.ofManifest
  rw [get?_foldl_addRoute]
  rfl

/-- A route names the method, and has a path for calls. -/
def Names (m : Route.Manifest) (method : String) : Prop :=
  ∃ spec ∈ m.specs, spec.2.rpcFunction = some method ∧ spec.2.rpcPath.isSome

theorem isSome_routeFor_ofManifest {m : Route.Manifest} {method : String} :
    ((Dispatcher.ofManifest m).routeFor method).isSome ↔ Names m method := by
  rw [routeFor_ofManifest, List.findSome?_isSome_iff]
  constructor
  · rintro ⟨spec, hspec, hpath⟩
    obtain ⟨named, hnamed, rfl⟩ := List.mem_map.1 hspec
    unfold callPath at hpath
    split at hpath
    · next hfunction => exact ⟨named, hnamed, hfunction, hpath⟩
    · cases hpath
  · rintro ⟨spec, hspec, hfunction, hpath⟩
    refine ⟨spec.2, List.mem_map_of_mem hspec, ?_⟩
    unfold callPath
    rwa [if_pos hfunction]

/-! ### Handlers -/

variable {d : Dispatcher} {method : String} {params : Value} {t : List (Exchange DispatchAnswer)} {registered : List String}

/-- The dispatcher of a manifest with handlers for these methods. -/
def Dispatcher.of (m : Route.Manifest) (registered : List String) : Dispatcher :=
  registered.foldl Dispatcher.register (.ofManifest m)

theorem foldl_register (d : Dispatcher) (registered : List String) :
    registered.foldl Dispatcher.register d = { d with handled := registered.reverse ++ d.handled } := by
  induction registered generalizing d with
  | nil => rfl
  | cons method registered ih =>
    rw [List.foldl_cons, ih, List.reverse_cons, List.append_assoc]
    rfl

theorem routeFor_of (m : Route.Manifest) (registered : List String) (method : String) :
    (Dispatcher.of m registered).routeFor method = (Dispatcher.ofManifest m).routeFor method := by
  rw [Dispatcher.of, foldl_register]
  rfl

theorem contains_handled_of (m : Route.Manifest) (registered : List String) (method : String) :
    (Dispatcher.of m registered).handled.contains method = true ↔ method ∈ registered := by
  rw [Dispatcher.of, foldl_register]
  simp [Dispatcher.ofManifest]

/-- The handlers that were run in exchanges: their methods, what they were given, and how they ended. -/
def handlings (t : List (Exchange DispatchAnswer)) : List (String × Value × Outcome) :=
  t.filterMap fun
    | ⟨.handle method params, outcome⟩ => some (method, params, outcome)
    | _ => none

theorem handlings_append (t t' : List (Exchange DispatchAnswer)) : handlings (t ++ t') = handlings t ++ handlings t' :=
  List.filterMap_append

theorem mem_of_mem_handlings {outcome : Outcome} (h : (method, params, outcome) ∈ handlings t) :
    (⟨.handle method params, outcome⟩ : Exchange DispatchAnswer) ∈ t := by
  obtain ⟨⟨q, answer⟩, hx, heq⟩ := List.mem_filterMap.1 h
  cases q with
  | log record => cases heq
  | handle method params =>
    cases heq
    exact hx

/-- A log record is no handler. -/
theorem handlings_of_ends_log {record : Log.Record} {u : Unit}
    (h : (question (DispatchQuestion.log record) : Dispatch Unit).Ends t u) : handlings t = [] := by
  obtain rfl := ends_question.1 h
  rfl

theorem ends_log_bind {α : Type} {record : Log.Record} {f : Unit → Dispatch α} {r : α}
    (h : ((question (DispatchQuestion.log record) : Dispatch Unit) >>= f).Ends t r) :
    ∃ t', handlings t = handlings t' ∧ (f ()).Ends t' r := by
  obtain ⟨t₁, t₂, ⟨⟩, rfl, hlog, hnext⟩ := ends_bind.1 h
  refine ⟨t₂, ?_, hnext⟩
  rw [handlings_append, handlings_of_ends_log hlog, List.nil_append]

/-- What a dispatcher owes to a call of a method: the reply, and the handlers that are run for it. -/
def Serves (d : Dispatcher) (method : String) (params : Value) (handled : List (String × Value × Outcome)) (reply : Reply) :
    Prop :=
  if (d.routeFor method).isNone then reply = .failed routeNotFound ∧ handled = []
  else if d.handled.contains method then
    ∃ outcome, handled = [(method, params, outcome)] ∧ reply = outcome.reply method
  else reply = .failed methodNotFound ∧ handled = []

theorem ends_reply {reply : Reply} (h : (d.reply method params).Ends t reply) :
    Serves d method (argument params) (handlings t) reply := by
  unfold Dispatcher.reply Dispatcher.report at h
  unfold Serves
  obtain ⟨t₁, ht₁, h⟩ := ends_log_bind h
  rw [ht₁]
  cases hroute : d.routeFor method with
  | none =>
    rw [hroute] at h
    obtain ⟨t₂, ht₂, h⟩ := ends_log_bind h
    obtain ⟨rfl, rfl⟩ := ends_pure.1 h
    rw [ht₂]
    exact ⟨rfl, rfl⟩
  | some path =>
    rw [hroute] at h
    obtain ⟨t₂, ht₂, h⟩ := ends_log_bind h
    rw [ht₂]
    rw [if_neg (by simp)]
    cases hhandled : d.handled.contains method with
    | true =>
      rw [hhandled, Bool.not_true, if_neg Bool.false_ne_true] at h
      rw [if_pos rfl]
      obtain ⟨t₃, t₄, outcome, rfl, hrun, hend⟩ := ends_bind.1 h
      obtain rfl := ends_question.1 hrun
      obtain ⟨t₅, ht₅, hend⟩ := ends_log_bind hend
      obtain ⟨rfl, rfl⟩ := ends_pure.1 hend
      refine ⟨outcome, ?_, rfl⟩
      rw [handlings_append, ht₅]
      rfl
    | false =>
      rw [hhandled, Bool.not_false, if_pos rfl] at h
      rw [if_neg Bool.false_ne_true]
      obtain ⟨t₃, ht₃, h⟩ := ends_log_bind h
      obtain ⟨rfl, rfl⟩ := ends_pure.1 h
      rw [ht₃]
      exact ⟨rfl, rfl⟩

/-- A body that is a call is served, and the reply has its identifier. -/
theorem ends_dispatch {body : Bytes} {request : Value} {r : Reply} (hbody : Value.ofBytes? body = some request)
    (hcall : callOf? request = some (method, params)) (h : (d.dispatch body).Ends t r) : ∃ reply,
      r = reply.withId (request.member? "id") ∧ Serves d method (argument params) (handlings t) reply := by
  unfold Dispatcher.dispatch at h
  rw [hbody] at h
  dsimp only at h
  rw [hcall] at h
  obtain ⟨reply, hreply, rfl⟩ := ends_map.1 h
  exact ⟨reply, rfl, ends_reply hreply⟩

theorem ends_dispatchBytes {body bytes : Bytes} (h : (d.dispatchBytes body).Ends t bytes) :
    ∃ r, (d.dispatch body).Ends t r ∧ bytes = Text.bytes r.text := ends_map.1 h

/-- The parameters of a call are handed on as they are, and its identifier comes back. -/
theorem ends_call {body bytes : Bytes} (hbody : body = Text.bytes (Call.of method params).text) (hparams : params.Exact 125)
    (h : (d.dispatchBytes body).Ends t bytes) : ∃ reply,
      bytes = Text.bytes (reply.withId (some (.int 1))).text ∧ Serves d method params (handlings t) reply := by
  have hread : Value.ofBytes? body = some (Value.ofMembers (Call.members method params)) := by
    rw [hbody, Call.ofBytes?_text hparams]
  obtain ⟨r, hdispatch, rfl⟩ := ends_dispatchBytes h
  obtain ⟨reply, rfl, hserves⟩ := ends_dispatch hread callOf?_call hdispatch
  rw [member?_id_call]
  exact ⟨reply, rfl, hserves⟩

end EdgeWorker.Rpc
