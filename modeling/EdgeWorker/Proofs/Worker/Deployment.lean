import EdgeWorker.Proofs.Worker.Storage

/-!
Marked generations in the course of requests to configurations that come and go.

A mark is set by a request whose worker was installed and activated, and from then on nothing of its generation is lost
as long as the mark is there (`exists_completes`). So a marked generation has everything that this worker asked for:

* `marked_spec` — the static resources of its configuration, whatever the network and the storage did; with what
  requests do that complete or fail to install;
* `templates_stored` — the templates of the manifest on the network, if this worker had loaded it, over a storage of either
  kind. If it had not, its generation is marked without any of them (`templates_missing`).
-/

namespace EdgeWorker

open EdgeWorker.Action EdgeWorker.Host EdgeWorker.Cache EdgeWorker.Cache.Generations

/-- The generation of a configuration has an entry for a path. -/
def Config.Stores (c : Config) (gs : Generations) (path : String) : Prop :=
  ∃ s, c.scope = .ok s ∧ (⟨s, c.cacheName⟩ : Current).Has gs path

instance (c : Config) (gs : Generations) (path : String) : Decidable (c.Stores gs path) :=
  match h : c.scope with
  | .ok s => decidable_of_iff ((⟨s, c.cacheName⟩ : Current).Has gs path)
      ⟨fun hp => ⟨s, h, hp⟩, fun ⟨_, hs, hp⟩ => by cases h.symm.trans hs; exact hp⟩
  | .error _ => isFalse fun ⟨_, hs, _⟩ => by cases h.symm.trans hs

/-- A storage has an entry for a path in the generation of a configuration. -/
def Config.IsStored (c : Config) (st : Storage) (path : String) : Prop :=
  ∃ s, c.scope = .ok s ∧ ∃ url, s.resolve path = .ok url ∧ (st.entryAt? c.cacheName (cacheKey url)).isSome

instance (c : Config) (st : Storage) (path : String) : Decidable (c.IsStored st path) :=
  match h : c.scope with
  | .ok s => match hp : s.resolve path with
    | .ok url => decidable_of_iff (st.entryAt? c.cacheName (cacheKey url)).isSome
        ⟨fun hu => ⟨s, h, url, hp, hu⟩, fun ⟨_, hs, _, hurl, hu⟩ => by
          cases h.symm.trans hs
          cases hp.symm.trans hurl
          exact hu⟩
    | .error _ => isFalse fun ⟨_, hs, _, hurl, _⟩ => by
        cases h.symm.trans hs
        cases hp.symm.trans hurl
  | .error _ => isFalse fun ⟨_, hs, _⟩ => by cases h.symm.trans hs

theorem Config.isStored_iff {names : String → Prop} {st : Storage} {gs : Generations} {c : Config}
    (h : st.Serves names gs) (hc : names c.cacheName) (path : String) : c.IsStored st path ↔ c.Stores gs path := by
  unfold Config.IsStored Config.Stores Current.Has
  simp only [h.entryAt?_eq hc]

namespace Visit

open EdgeWorker.Worker (Readiness)

variable {τ : Type} {vs before rest : List (Visit τ)} {v : Visit τ} {s : Generations × τ} {g : String}

/-! ### One request -/

/-- What is marked behind a request was marked before, and nothing of it was lost; or the request completed it. -/
theorem isMarked_after (hv : v.config.Unmarking) (hm : (v.after Generations.perform s).1.IsMarked g) :
    (s.1.IsMarked g ∧ Retains g s.1 (v.after Generations.perform s).1) ∨
    (g = v.config.cacheName ∧ ¬ s.1.IsMarked g ∧ ∃ r w, v.started Generations.perform s = .ok (r, .completed, w)) := by
  have hspec := v.spec hv s
  cases hs : v.started Generations.perform s with
  | error response =>
    rw [hs] at hspec
    exact .inl ⟨hspec ▸ hm, .of_get?_eq (by rw [hspec])⟩
  | ok started =>
    obtain ⟨r, readiness, w⟩ := started
    rw [hs] at hspec
    obtain ⟨-, -, -, -, hleads⟩ := hspec
    rcases hleads.isMarked hm with hold | ⟨rfl, rfl⟩
    · exact .inl ⟨hold, hleads.advances.retains_of_isMarked hm⟩
    · exact .inr ⟨rfl, hleads.1, r, w, rfl⟩

/-- Behind a request that completed its generation, the generation has all that the worker asked for, and there is no
other one. -/
theorem completes_spec {r : Http.Request} {w : Worker} (hv : v.config.Unmarking)
    (hs : v.started Generations.perform s = .ok (r, .completed, w)) :
    w.Full (v.after Generations.perform s).1 ∧ (v.after Generations.perform s).1.keys = [v.config.cacheName] ∧
      ∃ w₀, Worker.of v.config = .ok w₀ ∧ w.cache = w₀.cache ∧ (w.table = w₀.table ∨ ∃ m, w.table = w₀.table.addAll m) := by
  have hspec := v.spec hv s
  rw [hs] at hspec
  obtain ⟨w₀, hw₀, hcache, htable, -, -, hkeys, -, hfull⟩ := hspec
  exact ⟨hfull, hkeys, w₀, hw₀, hcache, htable⟩

/-! ### Requests one after another -/

/-- The storage and the surroundings after requests that began with an empty storage. -/
abbrev fromEmpty (vs : List (Visit τ)) (t : τ) : Generations × τ :=
  course Generations.perform vs (Generations.empty, t)

theorem fromEmpty_concat (vs : List (Visit τ)) (v : Visit τ) (t : τ) :
    fromEmpty (vs ++ [v]) t = v.after Generations.perform (fromEmpty vs t) := course_concat vs v _

/-- A marked generation was completed by a request, has been marked since, and has all that its worker asked for. -/
theorem exists_completes (vs : List (Visit τ)) (hvs : ∀ v ∈ vs, v.config.Unmarking) (t : τ)
    (hm : (fromEmpty vs t).1.IsMarked g) : ∃ before v rest r w, vs = before ++ v :: rest ∧ v.config.cacheName = g ∧
      v.started Generations.perform (fromEmpty before t) = .ok (r, .completed, w) ∧
      ¬ (fromEmpty before t).1.IsMarked g ∧
      (∀ since, since <+: rest → (fromEmpty (before ++ v :: since) t).1.IsMarked g) ∧ w.Full (fromEmpty vs t).1 := by
  induction vs using List.reverseRecOn with
  | nil => exact absurd hm (not_isMarked_of_get?_none rfl)
  | append_singleton vs v ih =>
    rw [fromEmpty_concat] at hm ⊢
    have hv := hvs v (List.mem_append_right _ List.mem_cons_self)
    rcases isMarked_after hv hm with ⟨hold, hretains⟩ | ⟨rfl, hnew, r, w, hs⟩
    · -- the mark is an old one, and what was stored with it is still there
      obtain ⟨before, u, rest, r, w, rfl, rfl, hs, hfresh, hsince, hfull⟩ :=
        ih (fun u hu => hvs u (List.mem_append_left _ hu)) hold
      have hu := hvs u (by simp)
      refine ⟨before, u, rest ++ [v], r, w, by simp, rfl, hs, hfresh, fun since hprefix => ?_, fun path hpath => ?_⟩
      · rcases List.prefix_concat_iff.1 hprefix with rfl | hprefix
        · rw [← List.cons_append, ← List.append_assoc, fromEmpty_concat]
          exact hm
        · exact hsince since hprefix
      · obtain ⟨-, -, w₀, hw₀, hcache, -⟩ := completes_spec hu hs
        have hname : w.cache.generation = u.config.cacheName := by
          rw [hcache, (Worker.of_spec hw₀).2.2.1]
        exact (hfull path hpath).mono (hname ▸ hretains)
    · obtain ⟨hfull, -, -⟩ := completes_spec hv hs
      refine ⟨vs, v, [], r, w, rfl, rfl, hs, hnew, fun since hprefix => ?_, hfull⟩
      rw [List.prefix_nil.1 hprefix, fromEmpty_concat]
      exact hm

/-- What a worker with its routes has stored are the static resources too. -/
theorem stores_of_full {w w₀ : Worker} {gs : Generations} (hw₀ : Worker.of v.config = .ok w₀) (hcache : w.cache = w₀.cache)
    (htable : w.table = w₀.table ∨ ∃ m, w.table = w₀.table.addAll m) (hfull : w.Full gs) :
    ∀ path ∈ v.config.staticAssets, v.config.Stores gs path := by
  obtain ⟨hscope, -, hcache₀, -, hmanifest⟩ := Worker.of_spec hw₀
  intro path hpath
  have hlisted : path ∈ w₀.table.manifest.paths := by rwa [hmanifest, Manifest.mem_ofPaths]
  have hasked : path ∈ w.table.manifest.paths := by
    rcases htable with he | ⟨m, he⟩ <;> rw [he]
    · exact hlisted
    · exact ((w₀.table.addAll_spec m).2.2 path).2 (.inl hlisted)
  have hhas := hfull path hasked
  rw [hcache, hcache₀] at hhas
  exact ⟨w₀.table.scope, hscope, hhas⟩

/-- Whatever requests are made to whatever configurations: a marked generation has all static resources of the
configuration whose request marked it; a request that is installed and activated leaves no generation but its own; and
one that cannot be installed takes nothing away and marks nothing. -/
theorem marked_spec (vs : List (Visit τ)) (hvs : ∀ v ∈ vs, v.config.Unmarking) (t : τ) :
    (∀ g, (fromEmpty vs t).1.IsMarked g → ∃ before v rest, vs = before ++ v :: rest ∧ v.config.cacheName = g ∧
      ¬ (fromEmpty before t).1.IsMarked g ∧
      (∀ since, since <+: rest → (fromEmpty (before ++ v :: since) t).1.IsMarked g) ∧
      ∀ path ∈ v.config.staticAssets, v.config.Stores (fromEmpty vs t).1 path) ∧
    (∀ before v rest, vs = before ++ v :: rest → v.Completes Generations.perform (fromEmpty before t) →
      (fromEmpty (before ++ [v]) t).1.keys = [v.config.cacheName]) ∧
    ∀ before v rest, vs = before ++ v :: rest → v.FailsToInstall Generations.perform (fromEmpty before t) →
      Fills v.config.cacheName (fromEmpty before t).1 (fromEmpty (before ++ [v]) t).1 := by
  refine ⟨fun g hm => ?_, ?_, ?_⟩
  · obtain ⟨before, v, rest, r, w, rfl, rfl, hs, hfresh, hsince, hfull⟩ := exists_completes vs hvs t hm
    obtain ⟨-, -, w₀, hw₀, hcache, htable⟩ := completes_spec (hvs v (by simp)) hs
    exact ⟨before, v, rest, rfl, rfl, hfresh, hsince, stores_of_full hw₀ hcache htable hfull⟩
  · rintro before v rest rfl ⟨r, w, hs⟩
    rw [fromEmpty_concat]
    exact (completes_spec (hvs v (by simp)) hs).2.1
  · rintro before v rest rfl ⟨r, e, w, hs⟩
    have hspec := v.spec (hvs v (by simp)) (fromEmpty before t)
    rw [hs] at hspec
    obtain ⟨-, -, -, -, hfills⟩ := hspec
    rw [fromEmpty_concat]
    exact hfills

/-! ### Two deployments -/

/-- A site with a manifest of routes, in which one template is named. -/
def page (address : String) : Http.Response :=
  .plain .ok (if address = "https://e.c/r" then Text.bytes "\x7b\"a\":\"=>b\"\x7d" else [])

def toSite (c : Config) : Visit Unit := ⟨c, Worker.rootRequest, Template.serving fun address => .ok (page address)⟩

def deployments : List (Visit Unit) := [toSite Worker.lone, toSite { Worker.lone with cacheName := "next" }]

theorem unmarking_of_mem_deployments : ∀ v ∈ deployments, v.config.Unmarking := by
  intro v hv
  refine Config.unmarking_of_slash ?_
  simp only [deployments, List.mem_cons, List.not_mem_nil, or_false] at hv
  rcases hv with rfl | rfl <;> decide

theorem marked_spec_of_deployments : (∀ v ∈ deployments, v.config.Unmarking) ∧
    (fromEmpty deployments ()).1.IsMarked "next" ∧ ∃ v ∈ deployments, v.config.cacheName = "next" ∧
      ∀ path ∈ v.config.staticAssets, v.config.Stores (fromEmpty deployments ()).1 path := by
  have hm : (fromEmpty deployments ()).1.IsMarked "next" := by decide +kernel
  obtain ⟨before, v, rest, hvs, hname, -, -, hstored⟩ := (marked_spec deployments unmarking_of_mem_deployments ()).1 "next" hm
  exact ⟨unmarking_of_mem_deployments, hm, v, by simp [hvs], hname, hstored⟩

/-! ### Templates -/

/-- The manifest that a request finds on the network. -/
def manifest? {κ : Type} (perform : κ → (op : Operation) → op.Answer × κ) (v : Visit τ) (s : κ × τ) :
    Option Route.Manifest :=
  match Worker.of v.config with
  | .ok w => ((Route.fetchManifest w.table.scope v.config.routesFile).run.run (keeping perform v.handle) s).1.toOption
  | .error _ => none

/-- The network answers as a site does, where it answers. -/
def AsSite (site : Http.Request → Http.Response) (r : Http.Request) (a : Except Fetch.Error Http.Response) : Prop :=
  ∀ response, a = .ok response → response = site r

/-- It does not depend on the storage. -/
theorem manifest?_eq {names : String → Prop} {st : Storage} {gs : Generations} (h : st.Serves names gs) (v : Visit τ)
    (t : τ) : v.manifest? Storage.perform (st, t) = v.manifest? Generations.perform (gs, t) := by
  unfold manifest?
  cases Worker.of v.config with
  | error e => rfl
  | ok w =>
    have hasks := Route.asks_fetchManifest (P := Question.Names names) (fun _ => trivial) w.table.scope v.config.routesFile
    have hagrees : Agrees names v.handle _ st gs t := agrees_of_asks hasks h
    obtain ⟨m, st', gs', t', hst, hgs, -⟩ := hagrees
    dsimp only
    rw [hst, hgs]

theorem manifest?_eq_some {w₀ : Worker} {m : Route.Manifest} (hw₀ : Worker.of v.config = .ok w₀) :
    v.manifest? Generations.perform s = some m ↔
    ((Route.fetchManifest w₀.table.scope v.config.routesFile).run.run (keeping Generations.perform v.handle) s).1 =
      .ok m := by
  unfold manifest?
  rw [hw₀]
  dsimp only
  cases ((Route.fetchManifest w₀.table.scope v.config.routesFile).run.run (keeping Generations.perform v.handle) s).1 with
  | error e => exact ⟨nofun, nofun⟩
  | ok m' => rw [Except.toOption, Option.some_inj, Except.ok.injEq]

theorem published_of_manifest? {site : Http.Request → Http.Response} {w₀ : Worker} {m : Route.Manifest}
    (hsite : ∀ r t, AsSite site r (v.handle (.fetch r) t).1) (hw₀ : Worker.of v.config = .ok w₀)
    (hm : v.manifest? Generations.perform s = some m) : Route.Published (AsSite site) w₀.table.scope v.config.routesFile m :=
  (run_keeping hsite (Route.ensures_fetchManifest w₀.table.scope v.config.routesFile s.1)).2 m ((manifest?_eq_some hw₀).1 hm)

/-- In memory, the templates of the manifest on a site are stored in a marked generation, if every request that completed
it had got the manifest. -/
theorem stores_templates {c : Config} (hc : c.Unmarking) {w₀ : Worker} (hw₀ : Worker.of c = .ok w₀)
    (site : Http.Request → Http.Response) (vs : List (Visit τ)) (v : Visit τ)
    (hvs : ∀ u ∈ vs ++ [v], u.config = c ∧ ∀ r t, AsSite site r (u.handle (.fetch r) t).1) (t : τ)
    (hloaded : ∀ before u rest, vs = before ++ u :: rest → u.Completes Generations.perform (fromEmpty before t) →
      (u.manifest? Generations.perform (fromEmpty before t)).isSome)
    (hm : (fromEmpty vs t).1.IsMarked c.cacheName) {m : Route.Manifest}
    (hload : v.manifest? Generations.perform (fromEmpty vs t) = some m) :
    ∀ path ∈ w₀.table.templatesOf m, c.Stores (fromEmpty vs t).1 path := by
  have hunmarking : ∀ u ∈ vs, u.config.Unmarking := fun u hu => by
    rw [(hvs u (List.mem_append_left _ hu)).1]
    exact hc
  obtain ⟨before, u, rest, r, w, rfl, -, hs, -, -, hfull⟩ := exists_completes vs hunmarking t hm
  obtain ⟨rfl, husite⟩ := hvs u (by simp)
  obtain ⟨hvconfig, hvsite⟩ := hvs v (by simp)
  obtain ⟨m', hm'⟩ := Option.isSome_iff_exists.1 (hloaded before u rest rfl ⟨r, w, hs⟩)
  -- both requests got the same manifest, since the site has but one
  have hsame : m' = m := by
    refine Route.Published.unique (fun r response h => h response rfl) (published_of_manifest? husite hw₀ hm') ?_
    rw [← hvconfig] at hw₀ ⊢
    exact published_of_manifest? hvsite hw₀ hload
  subst hsame
  obtain ⟨-, -, hcache, hconfig, -⟩ := Worker.of_spec hw₀
  obtain ⟨-, -, w₁, hw₁, hcache₁, -⟩ := completes_spec hc hs
  cases hw₀.symm.trans hw₁
  have htable := Worker.table_of_run_start hw₀ hs
  rw [hconfig, (manifest?_eq_some hw₀).1 hm'] at htable
  intro path hpath
  have hhas := hfull path (by rw [htable]; exact ((w₀.table.addAll_spec m').2.2 path).2 (.inr hpath))
  rw [hcache₁, hcache] at hhas
  exact ⟨w₀.table.scope, (Worker.of_spec hw₀).1, hhas⟩

/-- Over a storage of either kind, which was empty at first: the templates of the manifest on a site are stored in a marked
generation, if every request that completed it had got the manifest. -/
theorem templates_stored {c : Config} (hc : c.Unmarking) {w₀ : Worker} (hw₀ : Worker.of c = .ok w₀)
    (site : Http.Request → Http.Response) {st : Storage} (hst : st = .memory .empty ∨ st = .keyValue .empty)
    (vs : List (Visit τ)) (v : Visit τ)
    (hvs : ∀ u ∈ vs ++ [v], u.config = c ∧ ∀ r t, AsSite site r (u.handle (.fetch r) t).1) (t : τ)
    (hloaded : ∀ before u rest, vs = before ++ u :: rest →
      u.Completes Storage.perform (course Storage.perform before (st, t)) →
      (u.manifest? Storage.perform (course Storage.perform before (st, t))).isSome)
    (hm : (course Storage.perform vs (st, t)).1.IsMarked c.cacheName) {m : Route.Manifest}
    (hload : v.manifest? Storage.perform (course Storage.perform vs (st, t)) = some m) :
    ∀ path ∈ w₀.table.templatesOf m, c.IsStored (course Storage.perform vs (st, t)).1 path := by
  -- no generation is used but that of the configuration
  have hserves : st.Serves (· = c.cacheName) .empty :=
    Storage.serves_empty (hst.imp_right fun h => ⟨h, Persistent.separate_single c.cacheName⟩)
  have hnames : ∀ u ∈ vs, u.config.cacheName = c.cacheName := fun u hu => by rw [(hvs u (List.mem_append_left _ hu)).1]
  obtain ⟨st', gs', t', hstored, hkept, hserves'⟩ := exists_course_eq hserves vs hnames t
  rw [hstored] at hm hload ⊢
  intro path hpath
  rw [Config.isStored_iff hserves' rfl]
  have hkept' : fromEmpty vs t = (gs', t') := hkept
  have hstores := stores_templates hc hw₀ site vs v hvs t ?_ ?_ (m := m) ?_ path hpath
  · rwa [hkept'] at hstores
  · rintro before u rest rfl ⟨r, w, hcompletes⟩
    have hbefore : ∀ u ∈ before, u.config.cacheName = c.cacheName := fun u hu => hnames u (List.mem_append_left _ hu)
    obtain ⟨st₁, gs₁, t₁, hst₁, hgs₁, hserves₁⟩ := exists_course_eq hserves before hbefore t
    have hu : u.config.cacheName = c.cacheName := hnames u (by simp)
    have hloaded' := hloaded before u rest rfl
    have hgs₁' : fromEmpty before t = (gs₁, t₁) := hgs₁
    rw [hst₁, manifest?_eq hserves₁] at hloaded'
    rw [hgs₁'] at hcompletes ⊢
    exact hloaded' ⟨r, w, (started_eq hserves₁ hu t₁).trans hcompletes⟩
  · rw [hkept']
    exact (hserves'.isMarked_iff rfl).1 hm
  · rw [hkept', ← manifest?_eq hserves']
    exact hload

/-- A request that finds all of the site but its manifest. -/
def toSiteWithout (c : Config) : Visit Unit := ⟨c, Worker.rootRequest, Template.serving fun address =>
  if address = "https://e.c/r" then .error (.unreachable address) else .ok (page address)⟩

def routes : Route.Manifest := .ofList [("a", .compact "=>b")]

theorem asSite_toSite (c : Config) (r : Http.Request) (t : Unit) :
    AsSite (fun r => page r.target.text) r ((toSite c).handle (.fetch r) t).1 := fun _ h => (Except.ok.inj h).symm

theorem asSite_toSiteWithout (c : Config) (r : Http.Request) (t : Unit) :
    AsSite (fun r => page r.target.text) r ((toSiteWithout c).handle (.fetch r) t).1 := by
  intro response h
  change (if _ then Except.error _ else Except.ok _) = Except.ok response at h
  split at h
  · cases h
  · exact (Except.ok.inj h).symm

abbrev stored (vs : List (Visit Unit)) : Storage := (course Storage.perform vs (.memory .empty, ())).1

/-- Where the first request finds the manifest, the template is stored. -/
theorem templates_stored_of_found :
    (stored [toSite Worker.lone]).IsMarked Worker.lone.cacheName ∧
    (toSite Worker.lone).manifest? Storage.perform (stored [toSite Worker.lone], ()) = some routes ∧
    Worker.lone.IsStored (stored [toSite Worker.lone]) "/t/b" := by
  have hm : (stored [toSite Worker.lone]).IsMarked Worker.lone.cacheName := by decide +kernel
  have hload : (toSite Worker.lone).manifest? Storage.perform (stored [toSite Worker.lone], ()) = some routes := by
    decide +kernel
  have hvs : ∀ u ∈ [toSite Worker.lone] ++ [toSite Worker.lone],
      u.config = Worker.lone ∧ ∀ r t, AsSite (fun r => page r.target.text) r (u.handle (.fetch r) t).1 := by
    intro u hu
    simp only [List.singleton_append, List.mem_cons, List.not_mem_nil, or_false, or_self] at hu
    rw [hu]
    exact ⟨rfl, asSite_toSite Worker.lone⟩
  refine ⟨hm, hload, templates_stored (Config.unmarking_of_slash (by decide)) Worker.of_lone _ (.inl rfl) _ _ hvs () ?_ hm
    hload _ ?_⟩
  · intro before u rest hsplit _
    rcases before with _ | ⟨_, before⟩
    · cases hsplit
      decide +kernel
    · simp at hsplit
  · decide +kernel

/-- A request that did not find the manifest has marked the generation without the template. A later one that finds the
manifest leaves it so. -/
theorem templates_missing :
    (∀ u ∈ [toSiteWithout Worker.lone, toSite Worker.lone], u.config = Worker.lone ∧
      ∀ r t, AsSite (fun r => page r.target.text) r (u.handle (.fetch r) t).1) ∧
    (stored [toSiteWithout Worker.lone]).IsMarked Worker.lone.cacheName ∧
    (toSite Worker.lone).manifest? Storage.perform (stored [toSiteWithout Worker.lone], ()) = some routes ∧
    "/t/b" ∈ Worker.ofLone.table.templatesOf routes ∧
    ¬ Worker.lone.IsStored (stored [toSiteWithout Worker.lone]) "/t/b" ∧
    ¬ Worker.lone.IsStored (stored [toSiteWithout Worker.lone, toSite Worker.lone]) "/t/b" := by
  refine ⟨fun u hu => ?_, by decide +kernel⟩
  simp only [List.mem_cons, List.not_mem_nil, or_false] at hu
  rcases hu with rfl | rfl
  · exact ⟨rfl, asSite_toSiteWithout _⟩
  · exact ⟨rfl, asSite_toSite _⟩

end Visit
end EdgeWorker
