import EdgeWorker.Proofs.Template.Nesting
import EdgeWorker.Proofs.Template.Served
import EdgeWorker.Proofs.Worker.Handling
import EdgeWorker.Proofs.Worker.Unrouted

/-!
How answering a request may fail.

* `comesTo_forwarded` — a request that does not go by the routes of an active worker is answered from the cache without a
  fetch, or else it is forwarded as it is, once, and the answer of the network is the result;
* `not_isRouted_of_mem` — what is sent for a request that does go by the routes is not such a request itself;
* `converges_route` — where the network offers finitely many partials, what a route comes to is not that its load was cut
  off (`Endless`);
* `nests_of_route` — a page is cut off (`TooDeep`) only where it nests deeper than there is depth;
* `failure_spec` — nothing but a failed forward is an error, and what goes by the routes has an answer;
* `no_page_of_crossed` — inclusions that are not scanned may nest without end, and then there is none.
-/

namespace EdgeWorker.Worker

open EdgeWorker.Action EdgeWorker.Host EdgeWorker.Http EdgeWorker.Json

variable {σ : Type} {handle : Handler σ} {w : Worker} {r : Request} {steps : Nat} {fs : Fetches} {lines : Log.Lines}
  {result : Except Error Response}

/-! ### Forwarded requests -/

/-- A request was forwarded once, as it is, and the answer is the result. -/
def Forwarded (r : Request) (fs : Fetches) (result : Except Error Response) : Prop :=
  ∃ answer, fs = [(r, answer)] ∧ result = answer.mapError .fetch

theorem comesTo_forward (h : ComesTo (forward r).run fs result) : Forwarded r fs result := by
  obtain ⟨answer, hfetch, rfl⟩ := comesTo_withError.1 h
  exact ⟨answer, comesTo_fetch.1 hfetch, rfl⟩

/-- A storage that fails, or that has what is no response, counts as one that has nothing. -/
theorem comesTo_answerUnrouted (h : ComesTo (w.answerUnrouted lines r).run fs result) :
    (fs = [] ∧ ∃ response, result = .ok response) ∨ Forwarded r fs result := by
  unfold answerUnrouted at h
  have hwrite (level : Log.Level) (message : String) (fields : List (String × Json.Value)) :
      Asks Question.IsLocal (lines.write level message fields) :=
    (lines.asks_write level message fields).mono fun _ => Question.IsAside.isLocal
  obtain ⟨cached, h⟩ := h.of_lift_bind (asks_cachedFor (fun level message fields _ => hwrite level message fields)
    fun _ _ _ => trivial)
  obtain ⟨_, h⟩ := h.of_lift_bind (hwrite _ _ _)
  cases cached with
  | some response =>
    obtain ⟨rfl, rfl⟩ := comesTo_pure.1 h
    exact .inl ⟨rfl, response, rfl⟩
  | none => exact .inr (comesTo_forward h)

theorem comesTo_forwarded {p : Except Error Response × Worker} (hn : ¬ (w.phase.serves ∧ w.isRouted r))
    (h : ComesTo (w.answerWithin steps r) fs p) :
    p.2 = w ∧ ((fs = [] ∧ ∃ response, p.1 = .ok response) ∨ Forwarded r fs p.1) := by
  unfold answerWithin at h
  obtain ⟨lines, h⟩ := h.of_aside_bind (Log.Lines.asks_start _ _ _)
  dsimp only at h
  split at h
  · obtain ⟨_, h⟩ := h.of_aside_bind (lines.asks_write _ _ _)
    obtain ⟨result, hforward, rfl⟩ := comesTo_map.1 h
    exact ⟨rfl, .inr (comesTo_forward hforward)⟩
  · next hs =>
    rw [if_neg fun hr => hn ⟨by simpa using hs, hr⟩] at h
    obtain ⟨result, hunrouted, rfl⟩ := comesTo_map.1 h
    exact ⟨rfl, comesTo_answerUnrouted hunrouted⟩

/-! ### Routed requests -/

theorem not_isRouted_of_headers {q : Request} (h : q.headers = Keyed.empty ∨ q.headers = Rpc.callHeaders) : ¬ w.isRouted q := by
  unfold isRouted
  rcases h with h | h
  · rw [h]
    have hnone : Headers.text? Keyed.empty w.config.flagHeader = none := by
      unfold Headers.text?
      cases HeaderName.ofText? w.config.flagHeader <;> rfl
    rw [hnone]
    decide
  · rw [h]
    rcases Rpc.text?_callHeaders w.config.flagHeader with h | h <;> rw [h] <;> decide

/-- The calls and the sources that are fetched for a request do not have the flag. -/
theorem not_isRouted_of_mem {p : Handled × Worker} (h : ComesTo (w.route steps r) fs p) : ∀ x ∈ fs, ¬ w.isRouted x.1 := by
  cases hd : w.table.lookup r.target.path with
  | none =>
    unfold route at h
    rw [hd] at h
    obtain ⟨rfl, -⟩ := comesTo_pure.1 h
    exact List.forall_mem_nil _
  | some d =>
    obtain ⟨calls, pages, rfl, hcalls, hsettles⟩ := comesTo_route hd h
    intro x hx
    rcases List.mem_append.1 hx with hx | hx
    · have hpost : x.1 ∈ (w.postFor r d).toList := hcalls ▸ List.mem_map_of_mem hx
      exact not_isRouted_of_headers (.inr (posted_of_postFor (Option.mem_toList.1 hpost)).2)
    · exact not_isRouted_of_headers (.inl (hsettles.gets x hx).2)

/-! ### Results -/

/-- Nothing came of a request, as the load of its template was cut off. -/
def Endless (result : Except Error Response) : Prop := ∃ path, result = .error (.template (.endless path))

/-- Nothing came of a request, as its page was cut off. -/
def TooDeep (result : Except Error Response) : Prop := ∃ path, result = .error (.template (.render path .tooDeep))

/-- A call does not fail for a template. -/
theorem yields_callFor (w : Worker) (r : Request) (binding : String × String) :
    Yields (fun result => ∀ x, result ≠ .error (.template x)) (w.callFor r binding).run := by
  have hgathered := runs_settled (P := fun _ => True) ((Params.gather r w.config.headerPrefix).mapError fun e =>
    Error.badRequest e.message)
  unfold Yields callFor
  refine Runs.attempt hgathered (fun params _ => ?_) fun e he x hx => ?_
  · refine Runs.bind (yields_true (Rpc.invoke w.scope binding.1 binding.2 params).run).runs fun result _ x hx => ?_
    cases result <;> cases hx
  · cases hx
    cases hgather : Params.gather r w.config.headerPrefix <;> rw [hgather] at he <;> cases he

/-- No other failure is that a load was cut off than one of a template. -/
theorem not_endless_of_ne (h : ∀ x, result ≠ .error (.template x)) : ¬ Endless result := by
  rintro ⟨path, rfl⟩
  exact h _ rfl

section Steps

variable {names : List String} (ho : w.engine.Offers handle names)
include ho

theorem converges_pageFor (d : Route.Descriptor) (data : Value) (s : σ) :
    Converges handle (w.pageFor · d data) (fun p => ¬ Endless p.1) s := by
  unfold pageFor
  cases d.templatePath with
  | none => exact converges_const (not_endless_of_ne nofun)
  | some path =>
    refine (Template.Engine.converges_renderWithin ho path data s).bind ?_
    rintro ⟨page, engine⟩ s' hpage
    refine converges_const ?_
    rintro ⟨q, hq⟩
    cases page with
    | ok page => cases hq
    | error e =>
      cases hq
      exact hpage q rfl

theorem converges_route (r : Request) (s : σ) : Converges handle (w.route · r) (fun p => ¬ Endless p.1.response) s := by
  have hpage (d : Route.Descriptor) (data : Value) (called : Option Nat) (s : σ) :
      Converges handle (fun steps => do
        let page ← w.pageFor steps d data
        return ((⟨page.1, called⟩ : Handled), page.2)) (fun p => ¬ Endless p.1.response) s :=
    (converges_pageFor ho d data s).bind fun page s' hpage => converges_const hpage
  unfold route
  cases w.table.lookup r.target.path with
  | none => exact converges_const (not_endless_of_ne nofun)
  | some d =>
    dsimp only
    cases d.binding? with
    | none => exact hpage d .null none s
    | some binding =>
      have hcall := (w.yields_callFor r binding).runs.result handle s
      refine (converges_const (Q := fun result => ∀ x, result ≠ .error (.template x)) hcall).bind fun result s' hresult => ?_
      cases result with
      | error e =>
        refine converges_const (not_endless_of_ne fun x hx => hresult x ?_)
        exact congrArg Except.error (Except.error.inj hx)
      | ok data =>
        refine converges_bind fun called s' => ?_
        split
        · exact converges_const (not_endless_of_ne nofun)
        · exact hpage d data (some called) s'

end Steps

theorem nests_of_pageFor {d : Route.Descriptor} {data : Value} {t : σ}
    (h : TooDeep ((w.pageFor steps d data).run handle t).1.1) :
    ∃ path, ((w.pageFor steps d data).run handle t).1.2.engine.Nests path := by
  obtain ⟨q, h⟩ := h
  unfold pageFor at h ⊢
  cases hpath : d.templatePath with
  | none =>
    rw [hpath] at h
    cases h
  | some path =>
    simp only [hpath, run_do, run_pure] at h ⊢
    refine ⟨path, Template.Engine.nests_of_renderWithin (q := q) ?_⟩
    generalize ((w.engine.renderWithin steps path data).run handle t).1.1 = page at h ⊢
    cases page <;> cases h
    rfl

/-- A page is cut off only where the engine that is left has one that needs more depth than there is. -/
theorem nests_of_route {t : σ} (h : TooDeep ((w.route steps r).run handle t).1.1.response) :
    ∃ path, ((w.route steps r).run handle t).1.2.engine.Nests path := by
  unfold route at h ⊢
  cases hd : w.table.lookup r.target.path with
  | none =>
    rw [hd] at h
    obtain ⟨q, hq⟩ := h
    cases hq
  | some d =>
    simp only [hd] at h ⊢
    cases hb : d.binding? with
    | none =>
      simp only [hb, run_do, run_pure] at h ⊢
      exact nests_of_pageFor h
    | some binding =>
      have hcall := (w.yields_callFor r binding).runs.result handle t
      simp only [hb, run_do] at h ⊢
      generalize (w.callFor r binding).run.run handle t = called at h hcall ⊢
      obtain ⟨e | data, t'⟩ := called
      · obtain ⟨q, hq⟩ := h
        cases hq
        exact absurd rfl (hcall _)
      · simp only [run_do] at h ⊢
        by_cases hnull : data.isNull
        · rw [if_pos hnull] at h
          obtain ⟨q, hq⟩ := h
          cases hq
        · simp only [if_neg hnull, run_do, run_pure] at h ⊢
          exact nests_of_pageFor h

/-- The answer to a request that goes by the routes, from what its route comes to. The state is the one in which the route is
looked up. -/
theorem exists_run_answerWithin (handle : Handler σ) (hs : w.phase.serves) (hr : w.isRouted r) (s : σ) :
    ∃ lines begun t, ∀ steps, (w.answerWithin steps r).run handle s =
      let routed := (w.route steps r).run handle t
      let ended := (conclude lines r begun routed.1.1).run handle routed.2
      ((.ok ended.1, routed.1.2), ended.2) := by
  let started := (Log.Lines.start r.target.path w.leastLevel w.config.logFormat).run handle s
  let begun := clock.run handle started.2
  refine ⟨started.1, begun.1, begun.2, fun steps => ?_⟩
  unfold answerWithin
  rw [run_do]
  dsimp only
  rw [if_neg (by simp [hs]), if_pos hr]
  unfold answerRouted
  simp only [run_do, run_pure]
  rfl

/-- What a route comes to that is bound to no call, from the load of its template. -/
theorem response_of_load {d : Route.Descriptor} {path : String} {t : σ} (hd : w.table.lookup r.target.path = some d)
    (hb : d.binding? = none) (hpath : d.templatePath = some path) :
    ((w.route steps r).run handle t).1.1.response = match ((w.engine.loadWithin steps path).run handle t).1 with
      | (.error x, _) => .error (.template x)
      | (.ok (), e) => ((e.page path .null).map pageResponse).mapError .template := by
  simp only [route, hd, hb, pageFor, hpath, Template.Engine.renderWithin, run_do]
  rcases ((w.engine.loadWithin steps path).run handle t).1 with ⟨x | _, e⟩ <;> rfl

/-! ### Failures -/

/-- Surroundings with a network that fails and a storage with an entry everywhere, which is no response. -/
def spoilt : Handler Unit
  | .fetch _, _ => (.error (.transport "down"), ())
  | .store (.get _ _), _ => (.ok (some ⟨7, [("", "")], "*", .epoch⟩), ())
  | .store op, _ => (Cache.Generations.empty.perform op |>.1, ())
  | .log _, _ => ((), ())
  | .now, _ => (.epoch, ())
  | .clock, _ => (0, ())
  | .freshId, _ => ("", ())

/-- An active worker with a route that has a template and is bound to no call. -/
def pageWorker : Worker :=
  { ofLone with table := ofLone.table.add "a" ⟨none, none, some "b"⟩, phase := .activated }

/-- A network with the template of the route and two partials, which are these texts. -/
def pages (template first second : String) (address : String) : Except Fetch.Error Response :=
  if address = "https://e.c/t/b" then .ok (.plain .ok (Text.bytes template))
  else if address = "https://e.c/templates/a.html" then .ok (.plain .ok (Text.bytes first))
  else if address = "https://e.c/templates/b.html" then .ok (.plain .ok (Text.bytes second))
  else .error (.transport "down")

def pageAddresses : List String := ["https://e.c/t/b", "https://e.c/templates/a.html", "https://e.c/templates/b.html"]

theorem serves_pages (template first second : String) :
    Template.Serves (Template.serving (pages template first second)) (pages template first second) pageAddresses := by
  refine ⟨fun _ _ => rfl, fun address response hresponse _ => ?_⟩
  unfold pages at hresponse
  split at hresponse
  · next h => exact h ▸ List.mem_cons_self
  · split at hresponse
    · next h => exact h ▸ List.mem_cons_of_mem _ List.mem_cons_self
    · split at hresponse
      · next h => exact h ▸ List.mem_cons_of_mem _ (List.mem_cons_of_mem _ List.mem_cons_self)
      · cases hresponse

/-- Partials that include one another in tags that are not scanned. -/
def crossed : Handler Unit :=
  Template.serving (pages "\x7b\x7b> a\x7d\x7d\x7b\x7b> b\x7d\x7d" "\x7b\x7b~> b\x7d\x7d" "\x7b\x7b~> a\x7d\x7d")

end EdgeWorker.Worker
