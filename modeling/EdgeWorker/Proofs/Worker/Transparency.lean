import EdgeWorker.Proofs.Url.Reread
import EdgeWorker.Proofs.Worker.Provision
import EdgeWorker.Proofs.Worker.Routed
import EdgeWorker.Proofs.Worker.Unrouted

/-!
The cache is not seen in the answers. On a site that answers every GET request by its address alone, a worker that was
installed and activated answers as one does whose cache is empty (`answer_alike`).

* `IsSite network` — the network is such a site, and sends headers that are texts;
* `Bare w w' st` — the other worker, over a storage whose generation has nothing but its mark;
* `Launch.exists_answer` — an entry under the key of an address keeps the answer of the site;
* `unroutedResult`, `Launch.unroutedResult_eq`, `Launch.differ` — so what is stored for a request is what the network
  answers, and what is stored for a template is what it would be fetched as.
-/

namespace EdgeWorker.Worker

open EdgeWorker.Action EdgeWorker.Host EdgeWorker.Cache EdgeWorker.Http

variable {network : Request → Except Fetch.Error Response} {w w' : Worker} {gs : Generations} {st : Storage} {r : Request}

/-- A site answers a GET request by its address alone, and with headers that are texts. To other requests it has just one
answer each. -/
structure IsSite (network : Request → Except Fetch.Error Response) : Prop where
  byAddress : ∀ r r' : Request, r.method = .get → r'.method = .get → r.target.text = r'.target.text → network r = network r'
  readable : ∀ (r : Request) response, r.method = .get → network r = .ok response →
    ∀ field ∈ response.headers.fields, field.2.text?.isSome

/-- What a storage has of a generation that has nothing but its mark. -/
def onlyMark (now : Timestamp) (url : String) : Option Entry := if url = readyMarker then some (.of 204 [] now) else none

/-- A worker with the routes of another one, active over a generation that has nothing but its mark. -/
structure Bare (w w' : Worker) (st : Storage) : Prop where
  recached : w.Recached w'
  active : w'.phase = .activated
  stored : ∃ now, ∀ url, (st.perform (.get w'.cache.generation url)).1 = .ok (onlyMark now url)

/-- The target of a request is an address, and is this address. -/
def NamesItself (w : Worker) (r : Request) : Prop :=
  (∃ text, Target.ofText text = .ok r.target) ∧ ∃ url, w.scope.resolve r.target.text = .ok url ∧ url.text = r.target.text

/-- What a request that does not go by the routes is answered with, where these entries are stored. -/
def unroutedResult (network : Request → Except Fetch.Error Response) (w : Worker) (look : String → Option Entry)
    (r : Request) : Except Error Response :=
  match w.storedFor look r with
  | some response => .ok response
  | none => (network r).mapError .fetch

/-! ### What is stored -/

/-- An entry under the key of an address keeps the answer of the network to a request for an address with this key. -/
theorem exists_answer (hsound : w.cache.Sound (Answering network) gs) {key : String} {e : Entry} (hkey : key ≠ readyMarker)
    (he : gs.entryAt? w.cache.generation key = some e) : ∃ path url request response now,
      w.cache.scope.resolve path = .ok url ∧ cacheKey url = key ∧ Fetch.getRequest url = .ok request ∧
      network request = .ok response ∧ response.isSuccess = true ∧ e = Entry.ofResponse response now := by
  obtain ⟨path, ⟨request, answer⟩, hanswer, hrequest, hstored, response, now, hresponse, hsuccess, hentry⟩ :=
    (hsound key e he).resolve_left hkey
  obtain ⟨url, hurl, hrequest⟩ := Current.requestOf?_eq_some.1 hrequest
  obtain ⟨url', hurl', hkey'⟩ := Current.keyOf?_eq_some.1 hstored
  cases hurl.symm.trans hurl'
  exact ⟨path, url, request, response, now, hurl, hkey', hrequest, hanswer.symm.trans hresponse, hsuccess, hentry⟩

theorem Fresh.based (h : w.Fresh) : w.cache.scope.Based := by
  obtain ⟨origin, basePath, hscope⟩ := h.scope
  exact h.cache ▸ Scope.based_of hscope

/-- What is stored for the template of a route is what the network answers to the request for it. -/
theorem Fresh.differ (h : w.Fresh) (hsound : w.cache.Sound (Answering network) gs) (hstocked : w.Stocked gs) {key path : String}
    {d : Route.Descriptor} (hd : w.table.lookup key = some d) (hpath : d.templatePath = some path) (now : Timestamp) :
    w.Differ network (gs.entryAt? w.cache.generation) (onlyMark now) path := by
  obtain ⟨hlisted, hslash⟩ := h.lists key d path hd hpath
  obtain ⟨_, hleads, hsome⟩ := hstocked path hlisted
  have hmark := hleads
  obtain ⟨url, request, hurl, hrequest, rfl⟩ := hleads
  have hkey : cacheKey url ≠ readyMarker := fun hm =>
    Scope.not_leadsTo_marker h.based.authority hslash (hm ▸ hmark)
  obtain ⟨e, he⟩ := Option.isSome_iff_exists.1 hsome
  obtain ⟨path', url', request', response, time, hurl', hsame, hrequest', hanswer, hsuccess, rfl⟩ := exists_answer hsound hkey he
  -- there is but one request for both addresses
  obtain rfl : request' = request := h.based.getRequest_eq hurl' hurl hsame hrequest' hrequest
  exact ⟨url, request', response, time, hurl, hrequest, hanswer, hsuccess, he, if_neg hkey⟩

/-- What is stored for a request that does not go by the routes is what the network answers to it, or the mark. -/
theorem Fresh.unroutedResult_eq (hsite : IsSite network) (h : w.Fresh) (hsound : w.cache.Sound (Answering network) gs)
    {now now' : Timestamp} (hmark : gs.entryAt? w.cache.generation readyMarker = some (.of 204 [] now))
    (hr : r.method = .get) (hnames : w.NamesItself r) :
    w.unroutedResult network (gs.entryAt? w.cache.generation) r = w.unroutedResult network (onlyMark now') r := by
  obtain ⟨⟨text, htarget⟩, url, hurl, htext⟩ := hnames
  have hcacheable : isCacheable r = true := by simp [isCacheable, hr]
  unfold unroutedResult storedFor
  rw [hcacheable, hurl]
  dsimp only
  by_cases hkey : cacheKey url = readyMarker
  · rw [hkey, hmark]
    rfl
  · rw [onlyMark, if_neg hkey, Option.bind_none]
    cases he : gs.entryAt? w.cache.generation (cacheKey url) with
    | none => rfl
    | some e =>
      obtain ⟨path', url', request, response, time, hurl', hsame, hrequest, hanswer, -, rfl⟩ := exists_answer hsound hkey he
      have hscope : w.cache.scope.resolve r.target.text = .ok url := h.cache ▸ hurl
      have htext' := h.based.target_text_eq htarget hscope htext hurl' hsame.symm hrequest
      obtain ⟨v, target, -, -, rfl⟩ := Fetch.getRequest_eq_ok.1 hrequest
      have hnetwork := hsite.byAddress r _ hr rfl htext'.symm
      rw [hnetwork, hanswer, Option.bind_some, Entry.response_ofResponse (hsite.readable _ _ rfl hanswer)]
      rfl

/-- The address of a request has the key of a path that the table asks for. -/
def Covers (w : Worker) (r : Request) : Prop :=
  ∃ path ∈ w.table.manifest.paths, w.cache.keyOf? path = w.cache.keyOf? r.target.text

/-- For such a request something is stored. -/
theorem Fresh.isSome_storedFor (hsite : IsSite network) (h : w.Fresh) (hsound : w.cache.Sound (Answering network) gs)
    (hstocked : w.Stocked gs) {now : Timestamp}
    (hmark : gs.entryAt? w.cache.generation readyMarker = some (.of 204 [] now)) (hr : r.method = .get) (hcovers : w.Covers r) :
    (w.storedFor (gs.entryAt? w.cache.generation) r).isSome := by
  obtain ⟨path, hpath, hsame⟩ := hcovers
  obtain ⟨key, ⟨url, request, hurl, -, rfl⟩, hsome⟩ := hstocked path hpath
  rw [Current.keyOf?_eq_some.2 ⟨url, hurl, rfl⟩] at hsame
  obtain ⟨url', hurl', hkey'⟩ := Current.keyOf?_eq_some.1 hsame.symm
  have hscope : w.scope.resolve r.target.text = .ok url' := (congrArg (Scope.resolve · r.target.text) h.cache).symm.trans hurl'
  have hcacheable : isCacheable r = true := by simp [isCacheable, hr]
  unfold storedFor
  rw [hcacheable, hscope]
  dsimp only
  rw [hkey']
  by_cases hkey : cacheKey url = readyMarker
  · rw [hkey, hmark]
    rfl
  · obtain ⟨e, he⟩ := Option.isSome_iff_exists.1 hsome
    obtain ⟨path', url'', request, response, time, -, -, hrequest, hanswer, -, rfl⟩ := exists_answer hsound hkey he
    obtain ⟨v, target, -, -, rfl⟩ := Fetch.getRequest_eq_ok.1 hrequest
    rw [he, Option.bind_some, Entry.response_ofResponse (hsite.readable _ _ rfl hanswer)]
    rfl

/-! ### Answers -/

section Runs

variable {τ τ' : Type} {handle : Handler τ} {handle' : Handler τ'} {look : String → Option Entry} {steps : Nat}

/-- What a worker is known to answer, it answers over a storage with these entries. -/
theorem run_answerWithin_of_leads {E : Except Error Response × Worker → Prop} {fs : Fetches}
    (h : Leads (looking w.cache.generation look (Answering network)) (w.answerWithin steps r) E fs)
    (hlook : ∀ url, (st.perform (.get w.cache.generation url)).1 = .ok (look url)) (hw : Willing handle)
    (hanswers : ∀ r t, (handle (.fetch r) t).1 = network r) (t : τ) :
    E ((w.answerWithin steps r).run (keeping Storage.perform handle) (st, t)).1 ∧
      fetches ((w.answerWithin steps r).exchanges (keeping Storage.perform handle) (st, t)) = fs :=
  run_looking (h []) (w.asks_answerWithin steps r) st.perform_get hlook hw hanswers t

/-- A request that does not go by the routes. -/
theorem run_unrouted (hs : w.phase.serves) (hr : ¬ w.isRouted r)
    (hlook : ∀ url, (st.perform (.get w.cache.generation url)).1 = .ok (look url)) (hw : Willing handle)
    (hanswers : ∀ r t, (handle (.fetch r) t).1 = network r) (t : τ) :
    ((w.answerWithin steps r).run (keeping Storage.perform handle) (st, t)).1.1 = w.unroutedResult network look r ∧
      ((w.storedFor look r).isSome →
        fetches ((w.answerWithin steps r).exchanges (keeping Storage.perform handle) (st, t)) = []) := by
  have hunrouted : (w.answerWithin steps r).Ensures (looking _ look (Answering network)) [] _ := ensures_unrouted hs hr steps []
  have hrun := (run_looking hunrouted (w.asks_answerWithin steps r) st.perform_get hlook hw hanswers t).2
  unfold unroutedResult
  cases hstored : w.storedFor look r with
  | some response =>
    rw [hstored] at hrun
    exact ⟨hrun.1, fun _ => hrun.2⟩
  | none =>
    rw [hstored] at hrun
    obtain ⟨_, rfl, hresult, -⟩ := hrun
    exact ⟨hresult, nofun⟩

/-- The cache is not seen in the answers. Take a worker that loaded its routes on a site, was installed and activated
there, and one with the same routes whose generation has nothing but its mark. Both give the same response to every request
that goes by the routes, and the same result to every other GET request whose target is its own address. The second
worker takes one step more to load a template, since it has to fetch the source. The first one never does: for a request
that goes by the routes it fetches but calls and partials, and for another one whose address was installed it
fetches nothing; and all templates of its routes were installed. -/
theorem answer_alike (hsite : IsSite network) (l : Launch network) (hbare : Bare l.worker w' st) (hw : Willing handle)
    (hw' : Willing handle') (hanswers : ∀ r t, (handle (.fetch r) t).1 = network r)
    (hanswers' : ∀ r t, (handle' (.fetch r) t).1 = network r) (steps : Nat) (r : Request) (t : τ) (t' : τ') :
    let result := ((l.worker.answerWithin steps r).run (keeping Storage.perform handle) (l.storage, t)).1.1
    let result' := ((w'.answerWithin (steps + 1) r).run (keeping Storage.perform handle') (st, t')).1.1
    let fs := fetches ((l.worker.answerWithin steps r).exchanges (keeping Storage.perform handle) (l.storage, t))
    let fs' := fetches ((w'.answerWithin (steps + 1) r).exchanges (keeping Storage.perform handle') (st, t'))
    (l.worker.isRouted r → (∃ response, result = .ok response ∧ result' = .ok response) ∧ l.worker.Spares r fs fs') ∧
    (¬ l.worker.isRouted r → r.method = .get →
      (l.worker.NamesItself r → result = result') ∧ (l.worker.Covers r → fs = [])) ∧
    ∀ key d path, l.worker.table.lookup key = some d → d.templatePath = some path → path ∈ l.worker.table.manifest.paths := by
  intro result result' fs fs'
  obtain ⟨hfresh, hactive, names, gs, hserves, hname, hsound, hstocked, now, hmark⟩ := l.exists_generations
  obtain ⟨hrecached, hactive', now', hlook'⟩ := hbare
  have hs : l.worker.phase.serves := by rw [hactive]; rfl
  have hs' : w'.phase.serves := by rw [hactive']; rfl
  have hlook := hserves.get hname
  refine ⟨fun hr => ?_, fun hr hget => ⟨fun hnames => ?_, fun hcovers => ?_⟩, fun key d path hd hpath =>
    (hfresh.lists key d path hd hpath).1⟩
  · have hl (path : String) : l.worker.engine.library.isCompiled path = false := by rw [hfresh.library]; rfl
    obtain ⟨response, fs₁, fs₂, hleads, hleads', hspares⟩ := leads_routed_alike hrecached hs hs' hr
      (fun d path hd hpath => hfresh.differ hsound hstocked hd hpath now') hl steps
    obtain ⟨hresult, hfs⟩ := run_answerWithin_of_leads hleads hlook hw hanswers t
    obtain ⟨hresult', hfs'⟩ := run_answerWithin_of_leads hleads' hlook' hw' hanswers' t'
    obtain rfl : fs = fs₁ := hfs
    obtain rfl : fs' = fs₂ := hfs'
    exact ⟨⟨response, hresult, hresult'⟩, hspares⟩
  · have hr' : ¬ w'.isRouted r := fun h => hr (hrecached.isRouted_eq ▸ h)
    have hscope : w'.unroutedResult network (onlyMark now') r = l.worker.unroutedResult network (onlyMark now') r := by
      unfold unroutedResult storedFor Worker.scope
      rw [hrecached.table]
    calc result = l.worker.unroutedResult network (gs.entryAt? l.worker.cache.generation) r :=
          (run_unrouted hs hr hlook hw hanswers t).1
      _ = l.worker.unroutedResult network (onlyMark now') r := hfresh.unroutedResult_eq hsite hsound hmark hget hnames
      _ = result' := hscope.symm.trans (run_unrouted hs' hr' hlook' hw' hanswers' t').1.symm
  · exact (run_unrouted hs hr hlook hw hanswers t).2 (hfresh.isSome_storedFor hsite hsound hstocked hmark hget hcovers)

end Runs

/-! ### A site with a template -/

/-- A site with a manifest that names a template, which refers to a partial. -/
def pageAt (address : String) : Response :=
  .plain .ok <| Text.bytes <|
    if address = "https://e.c/r" then "\x7b\"a\":\"=>b\"\x7d"
    else if address = "https://e.c/t/b" then "\x7b\x7b> c\x7d\x7d" else "hello"

def siteNetwork (r : Request) : Except Fetch.Error Response := .ok (pageAt r.target.text)

def onSite : Handler Unit := Template.serving fun address => .ok (pageAt address)

theorem isSite_siteNetwork : IsSite siteNetwork where
  byAddress r r' _ _ h := by rw [siteNetwork, siteNetwork, h]
  readable r response _ h := by
    cases h
    exact List.forall_mem_nil _

def siteRoutes : Route.Manifest := .ofList [("a", .compact "=>b")]

/-- A worker that was installed and activated on the site, over a store of single values. -/
def siteLaunch : Launch siteNetwork where
  handle := onSite
  config := lone
  start := (.keyValue .empty, ())
  fresh := { ofLone with table := ofLone.table.addAll siteRoutes }
  events := [.install, .activate]
  answers _ _ := rfl
  serves := ⟨Persistent.Unmarked, .empty, Storage.serves_empty (.inr ⟨rfl, Persistent.separate_unmarked⟩), by decide +kernel,
    fun _ _ he => by cases he⟩
  loaded := run_bootstrap of_lone (by decide +kernel)
  told := by simp
  installed := by
    refine ⟨[], [.activate], rfl, ?_⟩
    unfold Succeeds
    decide +kernel
  active := by decide +kernel

def bareWorker : Worker :=
  { siteLaunch.worker with engine :=
      { siteLaunch.worker.engine with cache := { siteLaunch.worker.cache with generation := "bare" } } }

def bareStorage : Storage := .memory (Generations.empty.putAll "bare" [(readyMarker, .of 204 [] .epoch)])

theorem bare_bareWorker : Bare siteLaunch.worker bareWorker bareStorage where
  recached := ⟨rfl, rfl, rfl, rfl, rfl⟩
  active := siteLaunch.exists_generations.2.1
  stored := by
    refine ⟨.epoch, fun url => congrArg Except.ok ?_⟩
    show Generations.entryAt? (Generations.empty.putAll "bare" _) "bare" url = _
    rw [Generations.entryAt?_putAll_self, onlyMark]
    split
    · next h =>
      subst h
      rfl
    · next h =>
      rw [Keyed.get?_ofList_eq_none (by simpa using h)]
      rfl

def flagged : Request :=
  ⟨.get, ⟨none, "", "/a", none⟩, Headers.insert Keyed.empty ⟨"hx-request", by decide +kernel⟩
    ⟨Text.bytes "true", by decide +kernel⟩, []⟩

/-- Both answer with the page of the partial. -/
theorem answer_alike_of_site : IsSite siteNetwork ∧ Bare siteLaunch.worker bareWorker bareStorage ∧ Willing onSite ∧
    (∀ r t, (onSite (.fetch r) t).1 = siteNetwork r) ∧ siteLaunch.worker.isRouted flagged ∧
    ((siteLaunch.worker.answerWithin 3 flagged).run (keeping Storage.perform onSite) (siteLaunch.storage, ())).1.1 =
      .ok (pageResponse "hello") ∧
    ((bareWorker.answerWithin 4 flagged).run (keeping Storage.perform onSite) (bareStorage, ())).1.1 =
      .ok (pageResponse "hello") := by
  have hw : Willing onSite := Template.serving_willing _
  have hr : siteLaunch.worker.isRouted flagged := by decide +kernel
  have hpage : ((siteLaunch.worker.answerWithin 3 flagged).run (keeping Storage.perform onSite) (siteLaunch.storage, ())).1.1 =
      .ok (pageResponse "hello") := by decide +kernel
  obtain ⟨response, hresult, hresult'⟩ := ((answer_alike isSite_siteNetwork siteLaunch bare_bareWorker hw hw (fun _ _ => rfl)
    (fun _ _ => rfl) 3 flagged () ()).1 hr).1
  cases hpage.symm.trans hresult
  exact ⟨isSite_siteNetwork, bare_bareWorker, hw, fun _ _ => rfl, hr, hpage, hresult'⟩

end EdgeWorker.Worker
