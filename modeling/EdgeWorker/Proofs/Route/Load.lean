import EdgeWorker.Proofs.Cache.Marker
import EdgeWorker.Proofs.Route.Table
import EdgeWorker.Route.Load

/-!
What loading routes makes of a table and of a storage in memory.

* `Published` — the network may answer with this manifest;
* `ensures_loadOrLog` — the table is one with the routes of a manifest, or as it was; templates are put into the current
  generation, and all marks stay what they were;
* `run_loadOrLog_table` — which manifest that is.
-/

namespace EdgeWorker

open EdgeWorker.Action EdgeWorker.Host EdgeWorker.Cache EdgeWorker.Cache.Generations

namespace Route

variable {t : Table} {m m' : Manifest} {source : String}

/-! ### Manifests on the network -/

variable {admits : Http.Request → Except Fetch.Error Http.Response → Prop} {gs : Generations} {c : Current}

/-- The network may answer with this manifest. -/
def Published (admits : Http.Request → Except Fetch.Error Http.Response → Prop) (s : Scope) (source : String)
    (m : Manifest) : Prop :=
  ∃ url request response, s.resolve source = .ok url ∧ Fetch.getRequest url = .ok request ∧
    admits request (.ok response) ∧ Manifest.ofBytes? response.body = some m

/-- Where every request has but one answer, there is one manifest. -/
theorem Published.unique {s : Scope} {site : Http.Request → Http.Response}
    (hsite : ∀ r response, admits r (.ok response) → response = site r) (h : Published admits s source m)
    (h' : Published admits s source m') : m = m' := by
  obtain ⟨url, request, response, hurl, hrequest, hanswer, hm⟩ := h
  obtain ⟨url', request', response', hurl', hrequest', hanswer', hm'⟩ := h'
  cases hurl.symm.trans hurl'
  cases hrequest.symm.trans hrequest'
  rw [hsite _ _ hanswer] at hm
  rw [hsite _ _ hanswer'] at hm'
  exact Option.some.inj (hm.symm.trans hm')

theorem asks_fetchManifest {P : Question → Prop} (hP : ∀ r, P (.fetch r)) (s : Scope) (source : String) :
    Asks P (fetchManifest s source).run := by
  unfold fetchManifest
  refine (asks_settled _).attempt fun url => (asks_settled _).attempt fun request => ?_
  refine Asks.attempt (asks_fetch (hP _)).withError fun response => ?_
  dsimp only
  cases Manifest.ofBytes? response.body with
  | none =>
    split
    · exact (asks_settled _).attempt fun _ => asks_settled _
    · exact asks_settled _
  | some m =>
    split
    · exact (asks_settled _).attempt fun _ => asks_pure _
    · exact asks_pure _

theorem ensures_fetchManifest (s : Scope) (source : String) (gs : Generations) :
    (fetchManifest s source).run.Ensures (inMemory admits) gs fun r gs' =>
      gs' = gs ∧ ∀ m, r = .ok m → Published admits s source m := by
  have hfailed {e : LoadError} : gs = gs ∧ ∀ m, Except.error e = .ok m → Published admits s source m := ⟨rfl, nofun⟩
  unfold fetchManifest
  refine Host.Ensures.settle (fun url hurl => ?_) fun e _ => hfailed
  refine Host.Ensures.settle (fun request hrequest => ?_) fun e _ => hfailed
  refine Host.Ensures.attempt (R := fun r gs' => gs' = gs ∧ ∀ response, r = .ok response → admits request (.ok response))
    ?_ ?_ fun e gs' h => h.1 ▸ hfailed
  · refine ensures_withError.2 (ensures_fetch.2 fun a ha => ⟨rfl, fun response hr => ?_⟩)
    rwa [← Current.mapError_eq_ok.1 hr]
  · rintro response _ ⟨rfl, hresponse⟩
    dsimp only
    split
    · exact ensures_pure.2 hfailed
    · split
      · next m hm =>
        refine ensures_pure.2 ⟨rfl, fun m' hm' => ?_⟩
        cases hm'
        exact ⟨url, request, response, Current.mapError_eq_ok.1 hurl, Current.mapError_eq_ok.1 hrequest,
          hresponse response rfl, hm⟩
      · exact ensures_pure.2 hfailed

/-! ### Templates -/

/-- A template is put into the current generation, or not; its mark is not. -/
theorem ensures_primeOne (hp : ¬ c.scope.LeadsTo path readyMarker) (gs : Generations) :
    (primeOne c path).Ensures (inMemory admits) gs fun _ gs' => c.Gathers admits gs gs' := by
  unfold primeOne
  refine Action.Ensures.bind (c.ensures_add path gs) fun r gs' h => ?_
  have hgathers : c.Gathers admits gs gs' := by
    rcases h with ⟨-, rfl⟩ | ⟨-, stored, hstored, rfl⟩
    · exact .refl _ _
    · refine ⟨.putAll _ _ fun hm => hp ?_, fun h => h.putAll fun x hx => .inr ⟨path, List.mem_singleton.1 hx ▸ hstored⟩⟩
      rw [List.map_singleton, List.mem_singleton] at hm
      exact hm ▸ hstored.leadsTo
  cases r with
  | ok _ => exact ensures_pure.2 hgathers
  | error e => exact ensures_log.2 hgathers

theorem ensures_prime {paths : List String} (hp : ∀ path ∈ paths, ¬ c.scope.LeadsTo path readyMarker) (gs : Generations) :
    (prime c paths).Ensures (inMemory admits) gs fun _ gs' => c.Gathers admits gs gs' := by
  unfold prime
  induction paths generalizing gs with
  | nil => exact ensures_pure.2 (.refl _ _)
  | cons path paths ih =>
    refine Action.Ensures.bind (ensures_primeOne (hp path List.mem_cons_self) gs) fun _ gs' h => ?_
    exact (ih (fun p hm => hp p (List.mem_cons_of_mem _ hm)) gs').mono fun _ _ h' => h.trans h'

namespace Table

theorem ensures_primeUnlessReady {paths : List String} (hp : ∀ path ∈ paths, ¬ c.scope.LeadsTo path readyMarker)
    (source : String) (gs : Generations) :
    (primeUnlessReady c source paths).Ensures (inMemory admits) gs fun _ gs' => c.Gathers admits gs gs' := by
  unfold primeUnlessReady
  refine Action.Ensures.bind (c.ensures_isReady gs) ?_
  rintro r _ ⟨rfl, -⟩
  split
  · exact ensures_log.2 (.refl _ _)
  · exact ensures_prime hp _

/-! ### Routes -/

/-- The templates of a manifest are put into the current generation, or nothing is done. -/
theorem ensures_load (hs : c.scope = t.scope) (ha : t.scope.base.authority.isSome) (source : String)
    (gs : Generations) : (t.load c source).run.Ensures (inMemory admits) gs fun r gs' =>
      c.Gathers admits gs gs' ∧ ∀ loaded, r = .ok loaded → ∃ m, loaded.2 = t.addAll m := by
  unfold load
  refine Host.Ensures.attempt (ensures_fetchManifest t.scope source gs) ?_ ?_
  · rintro m _ ⟨rfl, -⟩
    refine ensures_lift.2 (ensures_log.2 (ensures_lift.2 ?_))
    have hp : ∀ path ∈ t.templatesOf m, ¬ c.scope.LeadsTo path readyMarker := fun path hpath =>
      hs ▸ Scope.not_leadsTo_marker ha (slash_mem_of_templatesOf hpath)
    refine (ensures_primeUnlessReady hp source _).mono fun _ gs' h => ensures_pure.2 ⟨h, fun loaded hl => ?_⟩
    cases hl
    exact ⟨m, rfl⟩
  · rintro e _ ⟨rfl, -⟩
    exact ⟨.refl _ _, nofun⟩

theorem ensures_loadOrLog (hs : c.scope = t.scope) (ha : t.scope.base.authority.isSome) (source : String)
    (gs : Generations) : (t.loadOrLog c source).Ensures (inMemory admits) gs fun loaded gs' =>
      c.Gathers admits gs gs' ∧ (loaded.2 = t ∨ ∃ m, loaded.2 = t.addAll m) := by
  unfold loadOrLog
  refine Action.Ensures.bind (ensures_load hs ha source gs) ?_
  rintro r gs' ⟨hgathers, hloaded⟩
  cases r with
  | ok loaded => exact ensures_pure.2 ⟨hgathers, .inr (hloaded loaded rfl)⟩
  | error e => exact ensures_bind.2 (ensures_log.2 (ensures_pure.2 ⟨hgathers, .inl rfl⟩))

/-- Loading asks about the current generation only. -/
theorem names_loadOrLog {names : String → Prop} (hc : names c.generation) (t : Table) (source : String) :
    Asks (Question.Names names) (t.loadOrLog c source) := by
  have hprime (paths : List String) : Asks (Question.Names names) (prime c paths) := by
    unfold prime
    induction paths with
    | nil => exact asks_pure _
    | cons path paths ih =>
      refine Asks.bind (Asks.bind (c.names_add hc path) fun added => ?_) fun _ => ih
      cases added with
      | ok _ => exact asks_pure _
      | error e => exact asks_log trivial
  have hready (paths : List String) : Asks (Question.Names names) (primeUnlessReady c source paths) := by
    unfold primeUnlessReady
    refine (c.names_isReady hc).bind fun ready => ?_
    split
    · exact asks_log trivial
    · exact hprime paths
  unfold loadOrLog load
  refine Asks.bind ?_ fun loaded => ?_
  · refine (asks_fetchManifest (fun _ => trivial) t.scope source).attempt fun m => ?_
    refine Asks.attempt (asks_log trivial).lift fun _ => ?_
    exact (hready _).lift.attempt fun _ => asks_pure _
  · cases loaded with
    | ok loaded => exact asks_pure _
    | error e => exact Asks.bind (asks_log trivial) fun _ => asks_pure _

/-- The table has the routes of the manifest that the network answers with first of all. -/
theorem run_loadOrLog_table {σ : Type} (handle : Handler σ) (t : Table) (c : Current) (source : String) (s : σ) :
    ((t.loadOrLog c source).run handle s).1.2 = match ((fetchManifest t.scope source).run.run handle s).1 with
      | .ok m => t.addAll m
      | .error _ => t := by
  unfold loadOrLog load
  rw [run_do, run_attempt]
  rcases (fetchManifest t.scope source).run.run handle s with ⟨e | m, s'⟩
  · rfl
  · dsimp only
    rw [lift_bind, run_do, lift_bind, run_do]
    rfl

end Table
end Route
end EdgeWorker
