import EdgeWorker.Proofs.Route.Table
import EdgeWorker.Proofs.Rpc.Dispatch

/-!
The table of routes and the dispatcher of one manifest. The table keeps the last route of a path, the dispatcher the first
one of a method.

* `pairwise_methods`, `mem_methods` — the methods of a dispatcher are those that routes name, in their order;
* `routeFor_eq_some_iff` — the first route of a method counts;
* `names_of_lookup` — whatever the table is left with is named in the manifest;
* `routes_agree` — so the dispatcher has a route for every call that the table has a path for.
-/

namespace EdgeWorker

namespace Cache

theorem mem_sorted {strings : List String} {s : String} : s ∈ sorted strings ↔ s ∈ strings := List.mem_mergeSort

theorem pairwise_sorted {strings : List String} (h : strings.Nodup) : (sorted strings).Pairwise (· < ·) := by
  have hle : (sorted strings).Pairwise fun a b => decide (a ≤ b) = true :=
    List.pairwise_mergeSort (fun a b c hab hbc => by simpa using le_trans (by simpa using hab) (by simpa using hbc))
      (fun a b => by simpa using le_total a b) strings
  have hne : (sorted strings).Pairwise (· ≠ ·) := (List.mergeSort_perm strings _).nodup_iff.2 h
  exact (hle.and hne).imp fun ⟨hab, hne⟩ => lt_of_le_of_ne (of_decide_eq_true hab) hne

end Cache

namespace Rpc

open EdgeWorker.Action EdgeWorker.Json

variable {m : Route.Manifest} {registered : List String} {method path : String}

/-! ### Methods -/

theorem routes_of (m : Route.Manifest) (registered : List String) :
    (Dispatcher.of m registered).routes = (Dispatcher.ofManifest m).routes := by
  rw [Dispatcher.of, foldl_register]

theorem pairwise_methods (m : Route.Manifest) (registered : List String) :
    (Dispatcher.of m registered).methods.Pairwise (· < ·) := Cache.pairwise_sorted (Keyed.distinct _)

theorem mem_methods : method ∈ (Dispatcher.of m registered).methods ↔ Names m method := by
  rw [Dispatcher.methods, Cache.mem_sorted, Keyed.mem_keys, routes_of]
  exact isSome_routeFor_ofManifest

/-- The route that names a method first. -/
theorem routeFor_eq_some_iff : (Dispatcher.of m registered).routeFor method = some path ↔
    ∃ before spec after, m.specs = before ++ spec :: after ∧
      (spec.2.rpcFunction = some method ∧ spec.2.rpcPath = some path) ∧
      ∀ s ∈ before, ¬ (s.2.rpcFunction = some method ∧ s.2.rpcPath.isSome) := by
  have hsome (s : Route.Spec) : callPath method s = some path ↔ s.rpcFunction = some method ∧ s.rpcPath = some path := by
    unfold callPath
    split <;> simp [*]
  have hnone (s : Route.Spec) : callPath method s = none ↔ ¬ (s.rpcFunction = some method ∧ s.rpcPath.isSome) := by
    unfold callPath
    split <;> simp [*]
  rw [routeFor_of, routeFor_ofManifest, List.findSome?_map, List.findSome?_eq_some_iff]
  simp only [Function.comp_apply, hsome, hnone]

/-! ### Calls of routes -/

/-- A route that the table has a call for is named in the manifest. -/
theorem names_of_lookup {scope : Scope} {dir : String} {assets : Cache.Manifest} {key : String} {d : Route.Descriptor}
    (h : ((Route.Table.empty scope dir assets).addAll m).lookup key = some d) (hbinding : d.binding? = some (path, method)) :
    Names m method := by
  rcases Route.Table.exists_of_lookup_addEach h with ⟨spec, hspec, -, rfl⟩ | hnone
  · unfold Route.Descriptor.binding? at hbinding
    split at hbinding
    · next p f hpath hfunction =>
      cases hbinding
      exact ⟨spec, hspec, hfunction, Option.isSome_of_eq_some hpath⟩
    · cases hbinding
  · rw [Route.Table.lookup_empty] at hnone
    cases hnone

theorem panicked_ne_routeNotFound (method : String) : s!"{method} panicked" ≠ routeNotFound := by
  intro h
  have hsuffix : " panicked".toList <:+ routeNotFound.toList := by
    refine ⟨method.toList, ?_⟩
    rw [← h, ← String.toList_append]
    rfl
  exact absurd hsuffix (by decide +kernel)

/-- A dispatcher that has a route for a method does not miss it: only the handler can say so. -/
theorem Serves.routeNotFound {d : Dispatcher} {params : Value} {handled : List (String × Value × Outcome)} {reply : Reply}
    (h : Serves d method params handled reply) (hroute : (d.routeFor method).isSome)
    (hreply : reply.outcome = .error routeNotFound) :
    d.handled.contains method ∧ handled = [(method, params, .failed routeNotFound)] := by
  unfold Serves at h
  rw [Option.isNone_eq_false_iff.2 hroute, if_neg Bool.false_ne_true] at h
  split at h
  · next hhandled =>
    obtain ⟨outcome, rfl, rfl⟩ := h
    refine ⟨hhandled, ?_⟩
    cases outcome with
    | returned v => cases hreply
    | failed message =>
      cases hreply
      rfl
    | panicked => exact absurd (Except.error.inj hreply) (panicked_ne_routeNotFound method)
  · obtain ⟨rfl, -⟩ := h
    exact absurd (Except.error.inj hreply) (by decide)

/-- The dispatcher of a manifest knows every method that the table of this manifest calls. Its methods are those of the
routes with a method and a path, and the first such route has the path. No call of a method that the table calls is told
that there is no route, unless its handler says so. -/
theorem routes_agree (m : Route.Manifest) (registered : List String) (scope : Scope) (dir : String)
    (assets : Cache.Manifest) :
    let t := (Route.Table.empty scope dir assets).addAll m
    let d := Dispatcher.of m registered
    (∀ key desc path method, t.lookup key = some desc → desc.binding? = some (path, method) → (d.routeFor method).isSome) ∧
    d.methods.Pairwise (· < ·) ∧
    (∀ method, method ∈ d.methods ↔ ∃ spec ∈ m.specs, spec.2.rpcFunction = some method ∧ spec.2.rpcPath.isSome) ∧
    (∀ method path, d.routeFor method = some path ↔ ∃ before spec after, m.specs = before ++ spec :: after ∧
      (spec.2.rpcFunction = some method ∧ spec.2.rpcPath = some path) ∧
      ∀ s ∈ before, ¬ (s.2.rpcFunction = some method ∧ s.2.rpcPath.isSome)) ∧
    ∀ key desc path method, t.lookup key = some desc → desc.binding? = some (path, method) →
      ∀ body request params exchanges r, Value.ofBytes? body = some request → callOf? request = some (method, params) →
        (d.dispatch body).Ends exchanges r → r.outcome = .error "Route not found" →
        method ∈ registered ∧ handlings exchanges = [(method, argument params, .failed "Route not found")] := by
  intro t d
  have hroute {key path method : String} {desc : Route.Descriptor} (hd : t.lookup key = some desc)
      (hbinding : desc.binding? = some (path, method)) : (d.routeFor method).isSome := by
    rw [routeFor_of]
    exact isSome_routeFor_ofManifest.2 (names_of_lookup hd hbinding)
  refine ⟨fun _ _ _ _ hd hbinding => hroute hd hbinding, pairwise_methods m registered, fun _ => mem_methods,
    fun _ _ => routeFor_eq_some_iff, fun key desc path method hd hbinding body request params exchanges r hbody hcall h hr => ?_⟩
  obtain ⟨reply, rfl, hserves⟩ := ends_dispatch hbody hcall h
  obtain ⟨hhandled, hone⟩ := hserves.routeNotFound (hroute hd hbinding) hr
  exact ⟨(contains_handled_of m registered method).1 hhandled, hone⟩

/-- Two routes of one path and one method. -/
def twice : Route.Manifest := .ofList [("/a", .compact "f@p"), ("a", .compact "f@q=>t")]

/-- A handler that says that there is no route. -/
def denying : (q : DispatchQuestion) → Unit → DispatchAnswer q × Unit
  | .log _, s => ((), s)
  | .handle _ _, s => (.failed "Route not found", s)

theorem exists_denied {d : Dispatcher} {body : Bytes} {request params : Value} (hbody : Value.ofBytes? body = some request)
    (hcall : callOf? request = some (method, params)) (hroute : (d.routeFor method).isSome)
    (hhandled : d.handled.contains method = true) :
    ∃ exchanges r, (d.dispatch body).Ends exchanges r ∧ r.outcome = .error "Route not found" := by
  have hends := ends_run denying (d.dispatch body) ()
  obtain ⟨reply, hreply, hserves⟩ := ends_dispatch hbody hcall hends
  rw [Serves, Option.isNone_eq_false_iff.2 hroute, if_neg Bool.false_ne_true, if_pos hhandled] at hserves
  obtain ⟨outcome, hone, rfl⟩ := hserves
  have hrun : (method, argument params, outcome) ∈ handlings ((d.dispatch body).exchanges denying ()) := by
    rw [hone]
    exact List.mem_cons_self
  obtain ⟨s, hs⟩ := exists_state_of_mem_exchanges (mem_of_mem_handlings hrun)
  have houtcome : outcome = .failed "Route not found" := hs
  refine ⟨_, _, hends, ?_⟩
  rw [hreply, houtcome]
  rfl

/-- The table has the second path, the dispatcher the first one. What the handler says is handed on. -/
theorem routes_agree_of_twice : let d := Dispatcher.of twice ["f"]
    (((Route.Table.empty Route.Table.appScope "t" .empty).addAll twice).lookup "/app/a").bind Route.Descriptor.binding? =
      some ("q", "f") ∧
    d.routeFor "f" = some "p" ∧ d.methods = ["f"] ∧
    ∃ body exchanges r, (Value.ofBytes? body).bind callOf? = some ("f", .array [.null]) ∧
      (d.dispatch body).Ends exchanges r ∧ r.outcome = .error "Route not found" ∧
      handlings exchanges = [("f", .null, .failed "Route not found")] := by
  intro d
  obtain ⟨hroute, -, -, hfirst, hanswer⟩ := routes_agree twice ["f"] Route.Table.appScope "t" .empty
  have hd : ((Route.Table.empty Route.Table.appScope "t" .empty).addAll twice).lookup "/app/a" =
      some ⟨some "t/t", some "q", some "f"⟩ := by decide +kernel
  -- the text is one of which only the reading is known, the run of the dispatcher on it is not evaluated
  obtain ⟨body, hbody⟩ : ∃ body, Value.ofBytes? body = some (Value.ofMembers (Call.members "f" .null)) :=
    ⟨_, Call.ofBytes?_text .null⟩
  obtain ⟨exchanges, r, hends, hr⟩ := exists_denied (d := d) hbody callOf?_call (hroute _ _ "q" "f" hd rfl) (by decide +kernel)
  have hpath : d.routeFor "f" = some "p" :=
    (hfirst "f" "p").2 ⟨[], ("/a", Route.Entry.spec (.compact "f@p")), _, rfl, by decide +kernel, nofun⟩
  refine ⟨by rw [hd]; rfl, hpath, by decide +kernel, body, exchanges, r, ?_, hends, hr, ?_⟩
  · rw [hbody]
    exact callOf?_call
  · exact (hanswer _ _ "q" "f" hd rfl _ _ _ _ _ hbody callOf?_call hends hr).2

end Rpc
end EdgeWorker
