import EdgeWorker.Proofs.Template.Recached
import EdgeWorker.Proofs.Worker.Answer

/-!
Requests that go by the routes, at two workers that differ in their cache.

* `leads_pageFor`, `leads_route_called` and the like, `leads_answerWithin` — what one worker answers, from what the parts
  of the answer lead to;
* `Recached w w'` — the workers have the same routes and the same scope; what their caches hold may differ;
* `leads_routed_alike` — where the one has the templates of the routes in its cache and the other has not (`Differ`), both
  give the same response, and what they fetch for it is the same but for the source of the template (`Spares`).
-/

namespace EdgeWorker

open EdgeWorker.Action EdgeWorker.Host EdgeWorker.Cache EdgeWorker.Http

/-- The question is for the answer to a post, or for a log record. -/
def Host.Question.Posts : Question → Prop
  | .fetch r => r.method = .post
  | .log _ => True
  | _ => False

theorem Host.Question.Posts.sends {q : Question} (h : q.Posts) : q.Sends := by
  cases q <;> first | exact h.elim | trivial

namespace Worker

variable {w w' : Worker} {network : Request → Except Fetch.Error Response} {look look' : String → Option Entry}
  {r : Request} {steps : Nat}

/-- The workers have the same routes and the same scope, and have the same templates loaded. -/
structure Recached (w w' : Worker) : Prop where
  table : w'.table = w.table
  flagHeader : w'.config.flagHeader = w.config.flagHeader
  headerPrefix : w'.config.headerPrefix = w.config.headerPrefix
  scope : w'.cache.scope = w.cache.scope
  engine : w'.engine = { w.engine with cache := w'.cache }

theorem posts_callFor (w : Worker) (r : Request) (binding : String × String) : Asks Question.Posts (w.callFor r binding).run :=
  (asks_settled _).attempt fun params =>
    (Rpc.asks_invoke (fun _ _ _ hsent => Rpc.method_requestOf hsent) (fun _ _ => trivial) _ _ _ params).withError

theorem Recached.callFor_eq (h : Recached w w') (binding : String × String) : w'.callFor r binding = w.callFor r binding := by
  unfold callFor Worker.scope
  rw [h.headerPrefix, h.table]

theorem Recached.isRouted_eq (h : Recached w w') : w'.isRouted r = w.isRouted r := by
  unfold isRouted
  rw [h.flagHeader]

/-! ### What is answered to a worker -/

section One

variable {admits : Request → Except Fetch.Error Response → Prop} {g : String} {result : Except Error Response} {fs fs' : Fetches}
  {lines : Log.Lines} {d : Route.Descriptor} {path : String} {binding : String × String} {data : Json.Value}

theorem leads_pageFor {page : Except Template.Error String} (hpath : d.templatePath = some path)
    (h : Leads (looking g look admits) (w.engine.renderWithin steps path data) (fun p => p.1 = page) fs) :
    Leads (looking g look admits) (w.pageFor steps d data)
      (fun p => p.1 = (page.map pageResponse).mapError .template) fs := by
  intro before
  unfold pageFor
  rw [hpath]
  refine Action.Ensures.bind (h before) ?_
  rintro p _ ⟨rfl, rfl⟩
  exact ensures_pure.2 ⟨rfl, rfl⟩

theorem leads_route_called (hd : w.table.lookup r.target.path = some d) (hb : d.binding? = some binding)
    (hcall : Leads (looking g look admits) (w.callFor r binding).run (· = .ok data) fs) (hdata : data.isNull = false)
    (h : Leads (looking g look admits) (w.pageFor steps d data) (fun p => p.1 = result) fs') :
    Leads (looking g look admits) (w.route steps r) (fun p => p.1.response = result) (fs ++ fs') := by
  unfold route
  rw [hd]
  dsimp only
  rw [hb]
  refine hcall.bind ?_
  rintro _ rfl
  refine leads_aside_bind (asks_clock trivial) fun called => ?_
  rw [if_neg (by simp [hdata])]
  intro before
  refine Action.Ensures.bind (h before) ?_
  rintro p _ ⟨rfl, rfl⟩
  exact ensures_pure.2 ⟨rfl, rfl⟩

theorem leads_route_null (hd : w.table.lookup r.target.path = some d) (hb : d.binding? = some binding)
    (hcall : Leads (looking g look admits) (w.callFor r binding).run (· = .ok data) fs) (hdata : data.isNull = true) :
    Leads (looking g look admits) (w.route steps r) (fun p => p.1.response = .ok emptyResponse) fs := by
  unfold route
  rw [hd]
  dsimp only
  rw [hb, ← List.append_nil fs]
  refine hcall.bind ?_
  rintro _ rfl
  refine leads_aside_bind (asks_clock trivial) fun called => ?_
  rw [if_pos hdata]
  exact leads_pure rfl

theorem leads_route_failed {e : Error} (hd : w.table.lookup r.target.path = some d) (hb : d.binding? = some binding)
    (hcall : Leads (looking g look admits) (w.callFor r binding).run (· = .error e) fs) :
    Leads (looking g look admits) (w.route steps r) (fun p => p.1.response = .error e) fs := by
  unfold route
  rw [hd]
  dsimp only
  rw [hb, ← List.append_nil fs]
  refine hcall.bind ?_
  rintro _ rfl
  exact leads_pure rfl

theorem leads_route_unbound (hd : w.table.lookup r.target.path = some d) (hb : d.binding? = none)
    (h : Leads (looking g look admits) (w.pageFor steps d .null) (fun p => p.1 = result) fs) :
    Leads (looking g look admits) (w.route steps r) (fun p => p.1.response = result) fs := by
  intro before
  unfold route
  rw [hd]
  dsimp only
  rw [hb]
  refine Action.Ensures.bind (h before) ?_
  rintro p _ ⟨rfl, rfl⟩
  exact ensures_pure.2 ⟨rfl, rfl⟩

theorem leads_route_missing (hd : w.table.lookup r.target.path = none) :
    Leads (looking g look admits) (w.route steps r) (fun p => p.1.response = .error (.routeNotFound r.target.path)) [] := by
  unfold route
  rw [hd]
  exact leads_pure rfl

/-- A routed request is answered with what came of it. -/
theorem leads_answerRouted (h : Leads (looking g look admits) (w.route steps r) (fun p => p.1.response = result) fs) :
    Leads (looking g look admits) (w.answerRouted steps lines r) (fun p => p.1 = answerTo result) fs := by
  unfold answerRouted
  refine leads_aside_bind (asks_clock trivial) fun begun => ?_
  rw [← List.append_nil fs]
  refine h.bind ?_
  rintro handled rfl
  refine (leads_of_aside (aside_conclude r lines begun handled.1)).bind_nil ?_
  rintro _ rfl
  exact leads_pure rfl

/-- An active worker goes by the routes where the request has the flag. -/
theorem leads_answerWithin (hs : w.phase.serves) (hr : w.isRouted r)
    (h : Leads (looking g look admits) (w.route steps r) (fun p => p.1.response = result) fs) :
    Leads (looking g look admits) (w.answerWithin steps r) (fun p => p.1 = .ok (answerTo result)) fs := by
  unfold answerWithin
  refine leads_aside_bind (Log.Lines.asks_start _ _ _) fun lines => ?_
  dsimp only
  rw [if_neg (by simp [hs]), if_pos hr, ← List.append_nil fs]
  refine (leads_answerRouted h).bind ?_
  rintro p hp
  exact leads_pure (congrArg Except.ok hp)

end One

/-! ### Two workers -/

/-- The request is for the source of the template of the route that another request goes by. -/
def IsSource (w : Worker) (r request : Request) : Prop :=
  ∃ d path url, w.table.lookup r.target.path = some d ∧ d.templatePath = some path ∧
    w.cache.scope.resolve path = .ok url ∧ Fetch.getRequest url = .ok request

/-- What the network answers to the request for a template is in the one cache, and nothing in the other. -/
def Differ (w : Worker) (network : Request → Except Fetch.Error Response) (look look' : String → Option Entry)
    (path : String) : Prop :=
  ∃ url request response now, w.cache.scope.resolve path = .ok url ∧ Fetch.getRequest url = .ok request ∧
    network request = .ok response ∧ response.isSuccess = true ∧
    look (cacheKey url) = some (Entry.ofResponse response now) ∧ look' (cacheKey url) = none

/-- What is fetched for a request that goes by the routes, where the templates are in the cache: calls, and then partials.
Without them the source of the template of the route is fetched between the two. -/
def Spares (w : Worker) (r : Request) (fs fs' : Fetches) : Prop :=
  ∃ calls parts, (∀ x ∈ calls, x.1.method = .post) ∧ (∀ x ∈ parts, w.engine.Seeks (.fetch x.1)) ∧ fs = calls ++ parts ∧
    (parts = [] ∧ fs' = calls ∨ ∃ source, w.IsSource r source.1 ∧ fs' = calls ++ source :: parts)

theorem pageFor_alike {d : Route.Descriptor} (h : Recached w w') (hd : w.table.lookup r.target.path = some d)
    (hdiffer : ∀ path, d.templatePath = some path → w.Differ network look look' path)
    (hl : ∀ path, w.engine.library.isCompiled path = false) (steps : Nat) (data : Json.Value) : ∃ result result' parts all,
      answerTo result = answerTo result' ∧
      Leads (looking w.cache.generation look (Answering network)) (w.pageFor steps d data) (fun p => p.1 = result) parts ∧
      Leads (looking w'.cache.generation look' (Answering network)) (w'.pageFor (steps + 1) d data)
        (fun p => p.1 = result') all ∧
      (∀ x ∈ parts, w.engine.Seeks (.fetch x.1)) ∧
      (parts = [] ∧ all = [] ∨ ∃ source, w.IsSource r source.1 ∧ all = source :: parts) := by
  cases hpath : d.templatePath with
  | none =>
    refine ⟨.ok emptyResponse, .ok emptyResponse, [], [], rfl, ?_, ?_, List.forall_mem_nil _, .inl ⟨rfl, rfl⟩⟩
    · unfold pageFor
      rw [hpath]
      exact leads_pure rfl
    · unfold pageFor
      rw [hpath]
      exact leads_pure rfl
  | some path =>
    obtain ⟨url, request, response, now, hurl, hrequest, hanswer, hsuccess, hlook, hlook'⟩ := hdiffer path hpath
    obtain ⟨result, result', parts, all, hsame, hleads, hleads', hparts, hall⟩ :=
      Template.Engine.renderWithin_alike h.engine h.scope (hl path) hurl hrequest hanswer hsuccess hlook hlook' steps data
    refine ⟨_, _, parts, all, ?_, leads_pageFor hpath hleads, leads_pageFor hpath hleads', hparts, ?_⟩
    · rcases hsame with rfl | ⟨⟨x, rfl⟩, y, rfl⟩ <;> rfl
    · rcases hall with hnone | rfl
      · exact .inl hnone
      · exact .inr ⟨_, ⟨d, path, url, hd, hpath, hurl, hrequest⟩, rfl⟩

/-- What came of a routed request is the same at both workers, as far as its answer goes. -/
theorem route_alike (h : Recached w w')
    (hdiffer : ∀ d path, w.table.lookup r.target.path = some d → d.templatePath = some path →
      w.Differ network look look' path)
    (hl : ∀ path, w.engine.library.isCompiled path = false) (steps : Nat) : ∃ result result' fs fs', answerTo result = answerTo result' ∧
      Leads (looking w.cache.generation look (Answering network)) (w.route steps r) (fun p => p.1.response = result) fs ∧
      Leads (looking w'.cache.generation look' (Answering network)) (w'.route (steps + 1) r)
        (fun p => p.1.response = result') fs' ∧
      w.Spares r fs fs' := by
  cases hd : w.table.lookup r.target.path with
  | none =>
    have hd' : w'.table.lookup r.target.path = none := by rw [h.table, hd]
    exact ⟨_, _, [], [], rfl, leads_route_missing hd, leads_route_missing hd',
      ⟨[], [], List.forall_mem_nil _, List.forall_mem_nil _, rfl, .inl ⟨rfl, rfl⟩⟩⟩
  | some d =>
    have hd' : w'.table.lookup r.target.path = some d := by rw [h.table, hd]
    cases hb : d.binding? with
    | none =>
      obtain ⟨result, result', parts, all, hsame, hleads, hleads', hparts, hall⟩ :=
        pageFor_alike h hd (hdiffer d · hd) hl steps .null
      exact ⟨result, result', parts, all, hsame, leads_route_unbound hd hb hleads, leads_route_unbound hd' hb hleads',
        ⟨[], parts, List.forall_mem_nil _, hparts, rfl, hall⟩⟩
    | some binding =>
      have hposts := posts_callFor w r binding
      have hcalls : ∀ x ∈ sent network (w.callFor r binding).run, x.1.method = .post := forall_sent hposts
      -- the call is the same at both
      have hcall {g : String} {look : String → Option Entry} :
          Leads (looking g look (Answering network)) (w.callFor r binding).run
            (· = outcome network (w.callFor r binding).run) (sent network (w.callFor r binding).run) :=
        leads_sends (hposts.mono fun _ => Question.Posts.sends)
      have hcall' {g : String} {look : String → Option Entry} :
          Leads (looking g look (Answering network)) (w'.callFor r binding).run
            (· = outcome network (w.callFor r binding).run) (sent network (w.callFor r binding).run) := by
        rw [h.callFor_eq binding]
        exact hcall
      generalize outcome network (w.callFor r binding).run = result at hcall hcall'
      generalize sent network (w.callFor r binding).run = calls at hcall hcall' hcalls
      cases result with
      | error e =>
        exact ⟨_, _, _, _, rfl, leads_route_failed hd hb hcall, leads_route_failed hd' hb hcall',
          ⟨calls, [], hcalls, List.forall_mem_nil _, (List.append_nil _).symm, .inl ⟨rfl, rfl⟩⟩⟩
      | ok data =>
        cases hnull : data.isNull with
        | true =>
          exact ⟨_, _, _, _, rfl, leads_route_null hd hb hcall hnull, leads_route_null hd' hb hcall' hnull,
            ⟨calls, [], hcalls, List.forall_mem_nil _, (List.append_nil _).symm, .inl ⟨rfl, rfl⟩⟩⟩
        | false =>
          obtain ⟨result, result', parts, all, hsame, hleads, hleads', hparts, hall⟩ :=
            pageFor_alike h hd (hdiffer d · hd) hl steps data
          refine ⟨result, result', _, _, hsame, leads_route_called hd hb hcall hnull hleads,
            leads_route_called hd' hb hcall' hnull hleads', ⟨calls, parts, hcalls, hparts, rfl, ?_⟩⟩
          rcases hall with ⟨hparts, rfl⟩ | ⟨source, hsource, rfl⟩
          · exact .inl ⟨hparts, List.append_nil _⟩
          · exact .inr ⟨source, hsource, rfl⟩

/-- Two active workers give the same response to a routed request where the one has the templates in its cache and the
other has not. -/
theorem leads_routed_alike (h : Recached w w') (hs : w.phase.serves) (hs' : w'.phase.serves) (hr : w.isRouted r)
    (hdiffer : ∀ d path, w.table.lookup r.target.path = some d → d.templatePath = some path →
      w.Differ network look look' path)
    (hl : ∀ path, w.engine.library.isCompiled path = false) (steps : Nat) : ∃ response fs fs',
      Leads (looking w.cache.generation look (Answering network)) (w.answerWithin steps r)
        (fun p => p.1 = .ok response) fs ∧
      Leads (looking w'.cache.generation look' (Answering network)) (w'.answerWithin (steps + 1) r)
        (fun p => p.1 = .ok response) fs' ∧
      w.Spares r fs fs' := by
  obtain ⟨result, result', fs, fs', hsame, hleads, hleads', hspares⟩ := route_alike h hdiffer hl steps
  exact ⟨answerTo result, fs, fs', leads_answerWithin hs hr hleads,
    hsame ▸ leads_answerWithin hs' (h.isRouted_eq.trans hr) hleads', hspares⟩

end Worker
end EdgeWorker
