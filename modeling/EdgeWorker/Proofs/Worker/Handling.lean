import EdgeWorker.Proofs.Rpc.Request
import EdgeWorker.Proofs.Worker.Routed
import EdgeWorker.Proofs.Worker.Transparency

/-!
How a request that goes by the routes is handled, whatever the surroundings answer.

* `Worker.postFor` — the request that calls what a route is bound to, if there is one;
* `Worker.Shows` — how the page of a route comes about: what is fetched for it, the response, and the worker it leaves;
* `comesTo_route`, `comesTo_answerWithin` — the parts of an answer, from the computations that it is put together of;
* `routed_spec` — one call at most, then one page at most, and the response to each case.
-/

namespace EdgeWorker

open EdgeWorker.Action EdgeWorker.Host EdgeWorker.Http EdgeWorker.Json

/-- If the question is for the answer to a request, then to a GET request without headers. -/
def Host.Question.Gets : Question → Prop
  | .fetch q => q.method = .get ∧ q.headers = Keyed.empty
  | _ => True

/-- A template and its partials are got. -/
theorem Template.Engine.gets_loadWithin (e : Engine) (steps : Nat) (path : String) :
    Host.Asks Question.Gets (e.loadWithin steps path) :=
  asks_carryOn (fun _ => trivial) (fun url q hq => by
    obtain ⟨v, target, -, -, rfl⟩ := Fetch.getRequest_eq_ok.1 hq
    exact ⟨rfl, rfl⟩) (fun _ _ => trivial) steps _

/-! ### Responses -/

/-- A response has this code and this body, and no field but that of its type, if it has one. -/
def Http.Response.Says (response : Response) (code : Nat) (type : Option String) (body : String) : Prop :=
  response.status.code = code ∧
  response.headers.fields.map (fun f => (f.1.text, f.2.bytes)) = type.toList.map (fun t => ("content-type", Text.bytes t)) ∧
  response.body = Text.bytes body

/-- The response of every request that goes by the routes and fails. -/
def Http.Response.IsFailure (response : Response) : Prop := response.Says 500 (some "text/plain") "Error handling request"

namespace Worker

theorem says_typed {status : Status} {value : HeaderValue} {type : String} (h : value.bytes = Text.bytes type)
    (body : String) : (typed status value body).Says status.code (some type) body := by
  refine ⟨rfl, ?_, rfl⟩
  show [("content-type", value.bytes)] = [("content-type", Text.bytes type)]
  rw [h]

theorem says_pageResponse (page : String) : (pageResponse page).Says 200 (some "text/html") page := says_typed rfl page

theorem says_emptyResponse : emptyResponse.Says 200 none "" := ⟨rfl, rfl, rfl⟩

theorem says_routeNotFound (path : String) :
    (errorResponse (.routeNotFound path)).Says 404 (some "text/plain") "Not Found" :=
  says_typed rfl "Not Found"

theorem isFailure_errorResponse {e : Error} (h : ∀ path, e ≠ .routeNotFound path) : (errorResponse e).IsFailure := by
  cases e with
  | routeNotFound path => exact absurd rfl (h path)
  | _ => exact says_typed rfl "Error handling request"

variable {w w' : Worker} {r : Request} {d : Route.Descriptor} {steps : Nat} {data : Value} {fs : Fetches}

/-! ### Calls -/

/-- The request that calls what a route is bound to, with the parameters of a request. -/
def postFor (w : Worker) (r : Request) (d : Route.Descriptor) : Option Request :=
  match d.rpcPath, d.rpcFunction, Params.gather r w.config.headerPrefix with
  | some path, some function, .ok params => Rpc.postOf w.scope path function params
  | _, _, _ => none

/-- Both parts of a call are there. -/
def Bound (d : Route.Descriptor) : Prop := d.rpcPath.isSome ∧ d.rpcFunction.isSome

instance (d : Route.Descriptor) : Decidable (Bound d) := inferInstanceAs (Decidable (_ ∧ _))

theorem binding?_of_not_bound (h : ¬ Bound d) : d.binding? = none := by
  unfold Route.Descriptor.binding?
  unfold Bound at h
  split
  · next hpath hfunction => simp [hpath, hfunction] at h
  · rfl

theorem postFor_of_not_bound (h : ¬ Bound d) : w.postFor r d = none := by
  unfold postFor
  unfold Bound at h
  split
  · next hpath hfunction _ => simp [hpath, hfunction] at h
  · rfl

theorem Bound.binding? (h : Bound d) : ∃ path function, d.rpcPath = some path ∧ d.rpcFunction = some function ∧
    d.binding? = some (path, function) := by
  obtain ⟨path, hpath⟩ := Option.isSome_iff_exists.1 h.1
  obtain ⟨function, hfunction⟩ := Option.isSome_iff_exists.1 h.2
  exact ⟨path, function, hpath, hfunction, by rw [Route.Descriptor.binding?, hpath, hfunction]⟩

theorem posted_of_postFor {q : Request} (h : w.postFor r d = some q) : q.method = .post ∧ q.headers = Rpc.callHeaders := by
  unfold postFor at h
  split at h
  · obtain ⟨url, -, h⟩ := Option.bind_eq_some_iff.1 h
    obtain ⟨q', -, rfl⟩ := Option.map_eq_some_iff.1 h
    exact ⟨rfl, rfl⟩
  · cases h

/-- What a route shows, given the answer to its call: the result in it, and null where nothing is called. -/
def shownFor (d : Route.Descriptor) (calls : Fetches) : Option Value :=
  if Bound d then Rpc.resultAmong calls else some .null

theorem comesTo_callFor {path function : String} {result : Except Error Value} (hpath : d.rpcPath = some path)
    (hfunction : d.rpcFunction = some function) (h : ComesTo (w.callFor r (path, function)).run fs result) :
    fs.map Prod.fst = (w.postFor r d).toList ∧ result.toOption = Rpc.resultAmong fs ∧
      ∀ e, result = .error e → (errorResponse e).IsFailure := by
  unfold callFor at h
  unfold postFor
  rw [hpath, hfunction]
  rcases h.of_mapError_bind with ⟨params, hgather, h⟩ | ⟨e, hgather, rfl, rfl⟩
  · rw [hgather]
    obtain ⟨result', hinvoke, rfl⟩ := comesTo_withError.1 h
    obtain ⟨hrequests, hresult⟩ := Rpc.comesTo_invoke hinvoke
    refine ⟨hrequests, (toOption_mapError _ _).trans hresult, fun e he => ?_⟩
    cases result' with
    | error e' =>
      cases he
      exact isFailure_errorResponse nofun
    | ok v => cases he
  · rw [hgather]
    refine ⟨rfl, rfl, fun e he => ?_⟩
    cases he
    exact isFailure_errorResponse nofun

/-! ### Pages -/

/-- How the page of a route comes about, with the requests that were fetched for it, the response, and the worker that is
left. -/
inductive Shows (w : Worker) (steps : Nat) (d : Route.Descriptor) (data : Value) : Fetches → Response → Worker → Prop
  | blank {response : Response} : d.templatePath = none → response.Says 200 none "" → Shows w steps d data [] response w
  | rendered {path page : String} {pages : Fetches} {engine : Template.Engine} {response : Response} :
      d.templatePath = some path → ComesTo (w.engine.loadWithin steps path) pages (.ok (), engine) →
      engine.page path data = .ok page → response.Says 200 (some "text/html") page →
      Shows w steps d data pages response { w with engine }
  | unrendered {path : String} {pages : Fetches} {engine : Template.Engine} {e : Template.Error} {response : Response} :
      d.templatePath = some path → ComesTo (w.engine.loadWithin steps path) pages (.ok (), engine) →
      engine.page path data = .error e → response.IsFailure → Shows w steps d data pages response { w with engine }
  | unloaded {path : String} {pages : Fetches} {engine : Template.Engine} {e : Template.Error} {response : Response} :
      d.templatePath = some path → ComesTo (w.engine.loadWithin steps path) pages (.error e, engine) →
      response.IsFailure → Shows w steps d data pages response { w with engine }

theorem comesTo_pageFor {result : Except Error Response} (h : ComesTo (w.pageFor steps d data) fs (result, w')) :
    w.Shows steps d data fs (answerTo result) w' := by
  unfold pageFor at h
  cases hpath : d.templatePath with
  | none =>
    rw [hpath] at h
    obtain ⟨rfl, heq⟩ := comesTo_pure.1 h
    cases heq
    exact .blank hpath says_emptyResponse
  | some path =>
    rw [hpath] at h
    obtain ⟨fs₁, fs₂, ⟨page, engine⟩, rfl, hrender, hend⟩ := comesTo_bind.1 h
    obtain ⟨rfl, heq⟩ := comesTo_pure.1 hend
    cases heq
    obtain ⟨fs₁, fs₂, ⟨outcome, engine'⟩, rfl, hload, hpage⟩ := comesTo_bind.1 hrender
    rw [List.append_nil]
    cases outcome with
    | error e =>
      obtain ⟨rfl, heq⟩ := comesTo_pure.1 hpage
      cases heq
      rw [List.append_nil]
      exact .unloaded hpath hload (isFailure_errorResponse nofun)
    | ok done =>
      obtain ⟨rfl, heq⟩ := comesTo_pure.1 hpage
      cases heq
      rw [List.append_nil]
      cases hmade : engine.page path data with
      | error e => exact .unrendered hpath hload hmade (isFailure_errorResponse nofun)
      | ok page => exact .rendered hpath hload hmade (says_pageResponse page)

theorem Shows.gets {response : Response} (h : w.Shows steps d data fs response w') :
    ∀ x ∈ fs, x.1.method = .get ∧ x.1.headers = Keyed.empty := by
  cases h with
  | blank => exact List.forall_mem_nil _
  | rendered _ hload => exact hload.forall_mem (w.engine.gets_loadWithin steps _)
  | unrendered _ hload => exact hload.forall_mem (w.engine.gets_loadWithin steps _)
  | unloaded _ hload => exact hload.forall_mem (w.engine.gets_loadWithin steps _)

/-! ### Answers -/

/-- What is left of handling a request once the call of its route is answered. A call without a result is a failure, and
one whose result is null leaves nothing to be shown. -/
def Settles (w : Worker) (steps : Nat) (d : Route.Descriptor) (calls pages : Fetches) (response : Response)
    (w' : Worker) : Prop :=
  match shownFor d calls with
  | none => response.IsFailure ∧ pages = [] ∧ w' = w
  | some data =>
    if Bound d ∧ data.isNull then response.Says 200 none "" ∧ pages = [] ∧ w' = w
    else w.Shows steps d data pages response w'

/-- A request for a path with a route: at most one call, and then at most one page. -/
theorem comesTo_route {p : Handled × Worker} (hd : w.table.lookup r.target.path = some d)
    (h : ComesTo (w.route steps r) fs p) : ∃ calls pages, fs = calls ++ pages ∧
      calls.map Prod.fst = (w.postFor r d).toList ∧ w.Settles steps d calls pages (answerTo p.1.response) p.2 := by
  unfold route at h
  rw [hd] at h
  dsimp only at h
  by_cases hb : Bound d
  · obtain ⟨path, function, hpath, hfunction, hbinding⟩ := hb.binding?
    rw [hbinding] at h
    obtain ⟨calls, fs', result, rfl, hcall, h⟩ := comesTo_bind.1 h
    obtain ⟨hrequests, hresult, herror⟩ := comesTo_callFor hpath hfunction hcall
    have hshown : shownFor d calls = result.toOption := by rw [shownFor, if_pos hb, hresult]
    refine ⟨calls, fs', rfl, hrequests, ?_⟩
    unfold Settles
    rw [hshown]
    cases result with
    | error e =>
      obtain ⟨rfl, rfl⟩ := comesTo_pure.1 h
      exact ⟨herror e rfl, rfl, rfl⟩
    | ok data =>
      obtain ⟨called, h⟩ := h.of_aside_bind (asks_clock trivial)
      dsimp only [Except.toOption]
      split at h
      · next hnull =>
        obtain ⟨rfl, rfl⟩ := comesTo_pure.1 h
        rw [if_pos ⟨hb, hnull⟩]
        exact ⟨says_emptyResponse, rfl, rfl⟩
      · next hnull =>
        rw [if_neg fun h => hnull h.2]
        obtain ⟨pages, _, ⟨result, w'⟩, rfl, hpage, hend⟩ := comesTo_bind.1 h
        obtain ⟨rfl, rfl⟩ := comesTo_pure.1 hend
        rw [List.append_nil]
        exact comesTo_pageFor hpage
  · rw [binding?_of_not_bound hb] at h
    obtain ⟨pages, _, ⟨result, w'⟩, rfl, hpage, hend⟩ := comesTo_bind.1 h
    obtain ⟨rfl, rfl⟩ := comesTo_pure.1 hend
    refine ⟨[], pages, List.append_nil pages, by rw [postFor_of_not_bound hb]; rfl, ?_⟩
    unfold Settles
    rw [shownFor, if_neg hb]
    dsimp only
    rw [if_neg fun h => hb h.1]
    exact comesTo_pageFor hpage

/-- A routed request is answered with what came of it. -/
theorem comesTo_answerRouted {lines : Log.Lines} {p : Response × Worker} (h : ComesTo (w.answerRouted steps lines r) fs p) :
    ∃ handled, ComesTo (w.route steps r) fs (handled, p.2) ∧ p.1 = answerTo handled.response := by
  unfold answerRouted at h
  obtain ⟨begun, h⟩ := h.of_aside_bind (asks_clock trivial)
  obtain ⟨fs₁, fs₂, ⟨handled, w'⟩, rfl, hroute, h⟩ := comesTo_bind.1 h
  obtain ⟨response, hconclude, rfl⟩ := comesTo_map.1 h
  -- the line about it fetches nothing
  obtain ⟨rfl, rfl⟩ := hconclude.of_aside (aside_conclude r lines begun handled)
  rw [List.append_nil]
  exact ⟨handled, hroute, rfl⟩

/-- An active worker goes by the routes where the request has the flag. -/
theorem comesTo_answerWithin {p : Except Error Response × Worker} (hs : w.phase.serves) (hr : w.isRouted r)
    (h : ComesTo (w.answerWithin steps r) fs p) :
    ∃ handled, ComesTo (w.route steps r) fs (handled, p.2) ∧ p.1 = .ok (answerTo handled.response) := by
  unfold answerWithin at h
  obtain ⟨lines, h⟩ := h.of_aside_bind (Log.Lines.asks_start _ _ _)
  dsimp only at h
  rw [if_neg (by simp [hs]), if_pos hr] at h
  obtain ⟨fs₁, fs₂, ⟨response, w'⟩, rfl, hrouted, hend⟩ := comesTo_bind.1 h
  obtain ⟨rfl, rfl⟩ := comesTo_pure.1 hend
  obtain ⟨handled, hroute, hresponse⟩ := comesTo_answerRouted hrouted
  rw [List.append_nil]
  exact ⟨handled, hroute, congrArg Except.ok hresponse⟩

theorem Settles.gets {calls pages : Fetches} {response : Response} (h : w.Settles steps d calls pages response w') :
    ∀ x ∈ pages, x.1.method = .get ∧ x.1.headers = Keyed.empty := by
  unfold Settles at h
  split at h
  · obtain ⟨-, rfl, -⟩ := h
    exact List.forall_mem_nil _
  · split at h
    · obtain ⟨-, rfl, -⟩ := h
      exact List.forall_mem_nil _
    · exact h.gets

/-- **A request that goes by the routes is handled by its route**, by every active worker and whatever the surroundings
answer. Without a route nothing is fetched, and the response is a 404. With one, the call that it is bound to is posted
once, if such a request can be made, and no other request is posted. A call without a result is a failure, and so is a page
that cannot be made; all failures have the same response, a 500. If the result is null, the response is a 200 without a type
and a body, the worker is left as it is, and nothing more is fetched. Else the page of the route is made of the result, or of
null where nothing is called; its template is loaded in at most so many steps. -/
theorem routed_spec {σ : Type} (handle : Handler σ) (w : Worker) (steps : Nat) (r : Request) (s : σ)
    (hs : w.phase.serves) (hr : w.isRouted r) :
    let ended := ((w.answerWithin steps r).run handle s).1
    let fs := fetches ((w.answerWithin steps r).exchanges handle s)
    ∃ response, ended.1 = .ok response ∧
      (w.table.lookup r.target.path = none →
        response.Says 404 (some "text/plain") "Not Found" ∧ fs = [] ∧ ended.2 = w) ∧
      ∀ d, w.table.lookup r.target.path = some d → ∃ calls pages, fs = calls ++ pages ∧
        calls.map Prod.fst = (w.postFor r d).toList ∧ (∀ x ∈ calls, x.1.method = .post) ∧ (∀ x ∈ pages, x.1.method = .get) ∧
        (shownFor d calls = none →
          response.Says 500 (some "text/plain") "Error handling request" ∧ pages = [] ∧ ended.2 = w) ∧
        (Bound d → shownFor d calls = some .null → response.Says 200 none "" ∧ pages = [] ∧ ended.2 = w) ∧
        ∀ data, shownFor d calls = some data → ¬ (Bound d ∧ data.isNull) → w.Shows steps d data pages response ended.2 := by
  intro ended fs
  obtain ⟨handled, hroute, hresponse⟩ := comesTo_answerWithin hs hr (comesTo_run handle (w.answerWithin steps r) s)
  refine ⟨answerTo handled.response, hresponse, fun hd => ?_, fun d hd => ?_⟩
  · unfold route at hroute
    rw [hd] at hroute
    obtain ⟨hfs, heq⟩ := comesTo_pure.1 hroute
    obtain ⟨rfl, hw⟩ := Prod.ext_iff.1 heq
    exact ⟨says_routeNotFound _, hfs, hw⟩
  · obtain ⟨calls, pages, hfs, hcalls, hsettles⟩ := comesTo_route hd hroute
    refine ⟨calls, pages, hfs, hcalls, fun x hx => ?_, fun x hx => (hsettles.gets x hx).1, fun hnone => ?_,
      fun hb hnull => ?_, fun data hdata hpage => ?_⟩
    · have hpost : x.1 ∈ (w.postFor r d).toList := hcalls ▸ List.mem_map_of_mem hx
      exact (posted_of_postFor (Option.mem_toList.1 hpost)).1
    · unfold Settles at hsettles
      rwa [hnone] at hsettles
    · unfold Settles at hsettles
      rw [hnull] at hsettles
      dsimp only at hsettles
      rwa [if_pos ⟨hb, rfl⟩] at hsettles
    · unfold Settles at hsettles
      rw [hdata] at hsettles
      dsimp only at hsettles
      rwa [if_neg hpage] at hsettles

/-- An active worker with a route that is bound to a call and has a template. -/
def boundWorker : Worker :=
  { ofLone with table := ofLone.table.add "a" ⟨some "f", some "api", some "b"⟩, phase := .activated }

/-- Surroundings in which the call has a result, and the template shows a part of it. -/
def boundSite : Handler Unit := Template.serving fun address =>
  .ok <| .plain .ok <| Text.bytes <|
    if address = "https://e.c/api" then "\x7b\"result\":\x7b\"a\":\"hi\"\x7d\x7d" else "\x7b\x7ba\x7d\x7d"

/-- The call is posted once, the template is got, and its page shows the result. -/
theorem routed_spec_of_bound : boundWorker.phase.serves ∧ boundWorker.isRouted flagged ∧
    ∃ response calls pages, ((boundWorker.answerWithin 2 flagged).run boundSite ()).1.1 = .ok response ∧
      response.Says 200 (some "text/html") "hi" ∧
      fetches ((boundWorker.answerWithin 2 flagged).exchanges boundSite ()) = calls ++ pages ∧
      calls.map (fun x => (x.1.method, x.1.target.text)) = [(.post, "https://e.c/api")] ∧
      ∀ x ∈ pages, x.1.method = .get := by
  have hs : boundWorker.phase.serves := rfl
  have hr : boundWorker.isRouted flagged := by decide +kernel
  have hd : boundWorker.table.lookup flagged.target.path = some ⟨some "/t/b", some "api", some "f"⟩ := by decide +kernel
  have hpost : (boundWorker.postFor flagged ⟨some "/t/b", some "api", some "f"⟩).toList.map
      (fun q => (q.method, q.target.text)) = [(.post, "https://e.c/api")] := by decide +kernel
  have hpage : ((boundWorker.answerWithin 2 flagged).run boundSite ()).1.1 = .ok (pageResponse "hi") := by decide +kernel
  obtain ⟨response, hok, -, hroute⟩ := routed_spec boundSite boundWorker 2 flagged () hs hr
  obtain ⟨calls, pages, hfs, hcalls, -, hgets, -⟩ := hroute _ hd
  have hresponse : response = pageResponse "hi" := Except.ok.inj (hok.symm.trans hpage)
  refine ⟨hs, hr, response, calls, pages, hok, hresponse ▸ says_pageResponse "hi", hfs, ?_, hgets⟩
  rw [← hpost, ← hcalls, List.map_map]
  rfl

end Worker
end EdgeWorker
