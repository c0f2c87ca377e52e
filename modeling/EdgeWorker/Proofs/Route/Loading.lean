import EdgeWorker.Proofs.Route.Priming

/-!
Loading routes over a storage in memory that refuses nothing.

* `Had`, `Lost` — a manifest was had, or why not, with what was fetched for it;
* `ensures_load_reliable` — what a load results in, and what it makes of the storage;
* `Table.load_spec` — a load that fails changes nothing, and one that succeeds primes a generation that is not marked with
  the templates of its manifest, in whatever order they take turns.
-/

namespace EdgeWorker.Route

open EdgeWorker.Action EdgeWorker.Host EdgeWorker.Cache EdgeWorker.Cache.Generations

variable {admits : Http.Request → Except Fetch.Error Http.Response → Prop} {scope : Scope} {source : String} {fs : Fetches}
  {t t' : Table} {c : Current}

/-! ### Manifests -/

/-- A manifest is had where the address of its location answers with success and with a manifest. -/
def Had (scope : Scope) (source : String) (fs : Fetches) (m : Manifest) : Prop :=
  ∃ url request response, scope.resolve source = .ok url ∧ Fetch.getRequest url = .ok request ∧
    fs = [(request, .ok response)] ∧ response.isSuccess ∧ Manifest.ofBytes? response.body = some m

/-- Why no manifest is had, and what was fetched until this was known. -/
inductive Lost (scope : Scope) (source : String) : Fetches → LoadError → Prop
  | location {e : Url.UrlError} : scope.resolve source = .error e → Lost scope source [] (.location source e)
  | request {url : Url} {e : Fetch.Error} : scope.resolve source = .ok url → Fetch.getRequest url = .error e →
      Lost scope source [] (.fetch url.text e)
  | fetch {url : Url} {r : Http.Request} {e : Fetch.Error} : scope.resolve source = .ok url →
      Fetch.getRequest url = .ok r → Lost scope source [(r, .error e)] (.fetch url.text e)
  | status {url : Url} {r : Http.Request} {response : Http.Response} : scope.resolve source = .ok url →
      Fetch.getRequest url = .ok r → ¬ response.isSuccess →
      Lost scope source [(r, .ok response)] (.status url.text response.status)
  | malformed {url : Url} {r : Http.Request} {response : Http.Response} : scope.resolve source = .ok url →
      Fetch.getRequest url = .ok r → response.isSuccess → Manifest.ofBytes? response.body = none →
      Lost scope source [(r, .ok response)] .malformed

theorem ensures_fetchManifest_fetched (scope : Scope) (source : String) (s : Generations × Fetches) :
    (fetchManifest scope source).run.Ensures (reliable admits) s fun result s' => s'.1 = s.1 ∧ ∃ fs, s'.2 = s.2 ++ fs ∧
      match result with
      | .ok m => Had scope source fs m
      | .error e => Lost scope source fs e := by
  unfold fetchManifest
  refine Host.Ensures.settle (fun url hurl => ?_) fun e he => ?_
  · replace hurl := Current.mapError_eq_ok.1 hurl
    refine Host.Ensures.settle (fun request hrequest => ?_) fun e he => ?_
    · replace hrequest := Current.mapError_eq_ok.1 hrequest
      refine Host.Ensures.attempt (R := fun result s' => ∃ a, s' = (s.1, s.2 ++ [(request, a)]) ∧
        result = a.mapError (.fetch url.text)) ?_ ?_ ?_
      · exact ensures_withError.2 (ensures_fetched.2 fun a _ => ⟨a, rfl, rfl⟩)
      · rintro response _ ⟨a, rfl, ha⟩
        obtain rfl := Current.mapError_eq_ok.1 ha.symm
        dsimp only
        split
        · next hfailed => exact ensures_pure.2 ⟨rfl, _, rfl, .status hurl hrequest (by simpa using hfailed)⟩
        · next hsuccess =>
          replace hsuccess : response.isSuccess := by simpa using hsuccess
          split
          · next m hm => exact ensures_pure.2 ⟨rfl, _, rfl, url, request, response, hurl, hrequest, rfl, hsuccess, hm⟩
          · next hm => exact ensures_pure.2 ⟨rfl, _, rfl, .malformed hurl hrequest hsuccess hm⟩
      · rintro _ _ ⟨a, rfl, ha⟩
        obtain ⟨e, rfl, rfl⟩ := Current.mapError_eq_error.1 ha.symm
        exact ⟨rfl, _, rfl, .fetch hurl hrequest⟩
    · obtain ⟨e, hfailed, rfl⟩ := Current.mapError_eq_error.1 he
      exact ⟨rfl, [], (List.append_nil _).symm, .request hurl hfailed⟩
  · obtain ⟨e, hfailed, rfl⟩ := Current.mapError_eq_error.1 he
    exact ⟨rfl, [], (List.append_nil _).symm, .location hfailed⟩

/-! ### Loads -/

/-- Whether a generation is marked. -/
theorem ensures_isReady_reliable (c : Current) (s : Generations × Fetches) :
    c.isReady.run.Ensures (reliable admits) s fun result s' => s' = s ∧
      result = .ok (s.1.entryAt? c.generation readyMarker).isSome := by
  unfold Current.isReady
  refine Host.Ensures.attempt (R := fun result s' => s' = s ∧ result = .ok (s.1.entryAt? c.generation readyMarker)) ?_ ?_ ?_
  · exact ensures_performed.2 ⟨rfl, rfl⟩
  · rintro found _ ⟨rfl, hfound⟩
    cases hfound
    exact ensures_pure.2 ⟨rfl, rfl⟩
  · rintro e _ ⟨-, he⟩
    cases he

namespace Table

/-- A generation that is marked is left as it is, and one that is not is primed. -/
theorem ensures_primeUnlessReady_reliable {paths : List String} (hs : c.scope.Based) (source : String)
    (s : Generations × Fetches) : (primeUnlessReady c source paths).Ensures (reliable admits) s fun _ s' =>
      (s.1.IsMarked c.generation → s'.1 = s.1) ∧
      ∀ network, (∀ r a, admits r a → a = network r.target.text) → ¬ s.1.IsMarked c.generation →
        c.Primed network paths s.1 s'.1 := by
  unfold primeUnlessReady
  refine Action.Ensures.bind (ensures_isReady_reliable c s) ?_
  rintro ready s' ⟨rfl, rfl⟩
  by_cases hmarked : (s'.1.entryAt? c.generation readyMarker).isSome = true
  · rw [hmarked]
    refine (ensures_aside (asks_log trivial)).mono ?_
    rintro _ _ rfl
    exact ⟨fun _ => rfl, fun _ _ hnot => absurd hmarked hnot⟩
  · have hnot : ¬ s'.1.IsMarked c.generation := hmarked
    rw [Bool.not_eq_true] at hmarked
    rw [hmarked]
    have hprimes : (prime c paths).Ensures (reliable admits) s' fun _ s'' => ∀ network,
        (∀ r a, admits r a → a = network r.target.text) → c.Primed network paths s'.1 s''.1 :=
      Ensures.forall fun network => Ensures.forall fun hadmits =>
        Current.ensures_primes hs hadmits (weaves_forM (primeOne c) paths) s'
    exact hprimes.mono fun _ s'' hprimed =>
      ⟨fun h => absurd h hnot, fun network hadmits _ => hprimed network hadmits⟩

/-- What comes of a load. It fails where no manifest is had, and then changes nothing. Otherwise its table has the routes of
the manifest, and the generation is primed unless it is marked. -/
def Outcome (admits : Http.Request → Except Fetch.Error Http.Response → Prop) (t : Table) (c : Current) (source : String)
    (gs : Generations) : Except LoadError (Nat × Table) → Generations × Fetches → Prop
  | .error e, (gs', fetched) => gs' = gs ∧ Lost t.scope source fetched e
  | .ok (n, t'), (gs', fetched) => ∃ m fs more, fetched = fs ++ more ∧ Had t.scope source fs m ∧ n = m.size ∧
    t' = t.addAll m ∧ (gs.IsMarked c.generation → gs' = gs) ∧
    ∀ network, (∀ r a, admits r a → a = network r.target.text) → ¬ gs.IsMarked c.generation →
      c.Primed network (t.templatesOf m) gs gs'

theorem ensures_load_reliable (hs : c.scope.Based) (t : Table) (source : String) (gs : Generations) :
    (t.load c source).run.Ensures (reliable admits) (gs, []) (Outcome admits t c source gs) := by
  unfold load
  refine Host.Ensures.attempt (ensures_fetchManifest_fetched t.scope source (gs, [])) ?_ ?_
  · rintro m ⟨_, fs⟩ ⟨rfl, _, rfl, hhad⟩
    refine ensures_lift.2 ((ensures_aside (asks_log trivial)).mono ?_)
    rintro _ _ rfl
    refine ensures_lift.2 (((ensures_primeUnlessReady_reliable hs source _).and (ensures_extends _ _)).mono ?_)
    rintro _ s' ⟨⟨hmarked, hunmarked⟩, more, hmore⟩
    exact ensures_pure.2 ⟨m, _, more, hmore, hhad, rfl, rfl, hmarked, hunmarked⟩
  · rintro e ⟨_, _⟩ ⟨rfl, fs, rfl, hlost⟩
    exact ⟨rfl, hlost⟩

variable {τ : Type}

/-- A failure is reported, and then the table is as it was. -/
theorem run_loadOrLog (handle : Handler τ) (t : Table) (c : Current) (source : String) (s : Generations × τ) :
    let after := (t.load c source).run.run (keeping Generations.perform handle) s
    let logged := (t.loadOrLog c source).run (keeping Generations.perform handle) s
    logged.1 = after.1.toOption.getD (0, t) ∧ logged.2.1 = after.2.1 := by
  unfold loadOrLog
  rw [run_do]
  rcases (t.load c source).run.run (keeping Generations.perform handle) s with ⟨e | loaded, s'⟩
  · exact ⟨rfl, rfl⟩
  · exact ⟨rfl, rfl⟩

/-- A load fails just where no manifest is had. Then the table and the storage are what they were, and the load that reports
its failure results in no routes. A load that succeeds does so with the number of the declarations of the manifest, and with
their routes. A generation that is marked is left as it is. One that is not is primed with the templates of the manifest
where the network answers by address alone, and so it would be in whatever order the templates take turns. -/
theorem load_spec {handle : Handler τ} (hw : Willing handle) {origin basePath : String}
    (hscope : Scope.of origin basePath = .ok c.scope) (t : Table) (source : String) (gs : Generations) (s : τ) :
    let fetched := fetches ((t.load c source).run.exchanges (keeping Generations.perform handle) (gs, s))
    let after := (t.load c source).run.run (keeping Generations.perform handle) (gs, s)
    let logged := (t.loadOrLog c source).run (keeping Generations.perform handle) (gs, s)
    (∀ e, after.1 = .error e →
      Lost t.scope source fetched e ∧ after.2.1 = gs ∧ logged.1 = (0, t) ∧ logged.2.1 = gs) ∧
    ∀ n t', after.1 = .ok (n, t') → ∃ m fs more,
      fetched = fs ++ more ∧ Had t.scope source fs m ∧ n = m.size ∧ t' = t.addAll m ∧
      logged.1 = (n, t') ∧ logged.2.1 = after.2.1 ∧
      (gs.IsMarked c.generation → after.2.1 = gs) ∧
      ∀ network, (∀ r s, (handle (.fetch r) s).1 = network r.target.text) → ¬ gs.IsMarked c.generation →
        c.Primed network (t.templatesOf m) gs after.2.1 ∧
        ∀ primes, Weaves ((t.templatesOf m).map (primeOne c)) primes →
          c.Primed network (t.templatesOf m) gs (primes.run (keeping Generations.perform handle) (gs, s)).2.1 := by
  have hs := Scope.based_of hscope
  -- what the network answers is what it answers at some time
  let admits (r : Http.Request) (a : Except Fetch.Error Http.Response) : Prop := ∃ s, a = (handle (.fetch r) s).1
  have hadmits : ∀ r s, admits r (handle (.fetch r) s).1 := fun r s => ⟨s, rfl⟩
  have hload := run_reliable_whole (t := s) hadmits hw (ensures_load_reliable hs t source gs)
  obtain ⟨hlogged, hstorage⟩ := run_loadOrLog handle t c source (gs, s)
  -- how the runs came about plays no further part
  generalize (t.load c source).run.run (keeping Generations.perform handle) (gs, s) = after at *
  generalize (t.loadOrLog c source).run (keeping Generations.perform handle) (gs, s) = logged at *
  generalize fetches ((t.load c source).run.exchanges (keeping Generations.perform handle) (gs, s)) = fetched at *
  refine ⟨fun e he => ?_, fun n t' hok => ?_⟩
  · rw [he] at hload hlogged
    obtain ⟨hgs, hlost⟩ := hload
    exact ⟨hlost, hgs, hlogged, hstorage.trans hgs⟩
  · rw [hok] at hload hlogged
    obtain ⟨m, fs, more, hfetched, hhad, rfl, rfl, hmarked, hprimed⟩ := hload
    refine ⟨m, fs, more, hfetched, hhad, rfl, rfl, hlogged, hstorage, hmarked, fun network hnetwork hnot => ?_⟩
    have hanswer : ∀ r a, admits r a → a = network r.target.text := by
      rintro r a ⟨s, rfl⟩
      exact hnetwork r s
    refine ⟨hprimed network hanswer hnot, fun primes hweaves => ?_⟩
    exact run_reliable hadmits hw (Current.ensures_primes hs hanswer hweaves (gs, []))

def rootTable : Table := .empty Template.rootCache.scope "/t" .empty

def twoTemplates : Manifest := .ofList [("/a", .compact "=>b"), ("/c", .compact "=>d")]

/-- A site with this manifest, and with one of the templates, with values of headers of which one is a text. -/
def incomplete (address : String) : Except Fetch.Error Http.Response :=
  if address = "https://e.c/r" then
    .ok (.plain .ok (Text.bytes "\x7b\"/a\":\"=>b\",\"/c\":\"=>d\"\x7d"))
  else if address = "https://e.c/t/b" then .ok { mixed with body := Text.bytes "new" }
  else .error (.unreachable address)

def stale : Generations :=
  Generations.empty.putAll "g" (["https://e.c/t/b", "https://e.c/t/d"].map fun key =>
    (key, Entry.ofResponse (.plain .ok (Text.bytes "old")) .epoch))

theorem load_spec_of_incomplete : Scope.of "https://e.c" "/" = .ok Template.rootCache.scope ∧
    Willing (Template.serving incomplete) ∧ ¬ stale.IsMarked "g" ∧
    let after := (rootTable.load Template.rootCache "/r").run.run (keeping Generations.perform (Template.serving incomplete))
      (stale, ())
    after.1 = .ok (2, rootTable.addAll twoTemplates) ∧
    (∃ entry, after.2.1.entryAt? "g" "https://e.c/t/b" = some entry ∧ entry.bytes = .ok (Text.bytes "new") ∧
      entry.headers.map (fun h => (h.1, Text.bytes h.2)) = [("a", [0x78])]) ∧
    after.2.1.entryAt? "g" "https://e.c/t/d" = stale.entryAt? "g" "https://e.c/t/d" := by
  have hscope : Scope.of "https://e.c" "/" = .ok Template.rootCache.scope := by decide +kernel
  have hw : Willing (Template.serving incomplete) := Template.serving_willing _
  have hnot : ¬ stale.IsMarked "g" := by decide +kernel
  have hok : ((rootTable.load Template.rootCache "/r").run.run
      (keeping Generations.perform (Template.serving incomplete)) (stale, ())).1 =
        .ok (2, rootTable.addAll twoTemplates) := by decide +kernel
  refine ⟨hscope, hw, hnot, hok, ?_⟩
  obtain ⟨m, fs, more, hfetched, ⟨_, _, response, -, -, rfl, -, hm⟩, -, -, -, -, -, hprimed⟩ :=
    (load_spec hw hscope rootTable "/r" stale ()).2 _ _ hok
  -- the manifest is the one of the site
  have hfirst : (fetches ((rootTable.load Template.rootCache "/r").run.exchanges
      (keeping Generations.perform (Template.serving incomplete)) (stale, ()))).head?.map Prod.snd =
        some (incomplete "https://e.c/r") := by decide +kernel
  rw [hfetched] at hfirst
  obtain rfl : response = _ := Except.ok.inj (Option.some.inj hfirst)
  obtain rfl : twoTemplates = m := Option.some.inj (Eq.trans (by decide +kernel) hm)
  obtain ⟨⟨hstored, hkept⟩, -⟩ := hprimed incomplete (fun _ _ => rfl) hnot
  rw [show rootTable.templatesOf twoTemplates = ["/t/b", "/t/d"] by decide +kernel] at hstored hkept
  have hb : (Template.rootCache.requestOf? "/t/b").map (incomplete ·.target.text) =
      some (.ok { mixed with body := Text.bytes "new" }) := by decide +kernel
  have hd : (Template.rootCache.requestOf? "/t/d").map (incomplete ·.target.text) =
      some (.error (.unreachable "https://e.c/t/d")) := by decide +kernel
  obtain ⟨request, hrequest, hanswer⟩ := Option.map_eq_some_iff.1 hb
  obtain ⟨entry, hentry, hkeeps⟩ :=
    hstored "/t/b" List.mem_cons_self "https://e.c/t/b" _ ⟨by decide +kernel, request, hrequest, hanswer, rfl⟩
  have hheaders : entry.headers.map (fun h => (h.1, Text.bytes h.2)) = [("a", [0x78])] :=
    hkeeps.headers.trans (by decide +kernel)
  refine ⟨⟨entry, hentry, hkeeps.body, hheaders⟩, hkept "g" "https://e.c/t/d" (.inr ?_)⟩
  rintro path hpath response ⟨hkey, request, hrequest, hanswer, -⟩
  rcases List.mem_pair.1 hpath with rfl | rfl
  · exact absurd hkey (by decide +kernel)
  · rw [hrequest, Option.map_some, hanswer] at hd
    cases hd

end Table
end EdgeWorker.Route
