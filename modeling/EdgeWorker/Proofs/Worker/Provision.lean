import EdgeWorker.Proofs.Worker.Storage

/-!
What a worker has stored that has loaded its routes, and was installed and activated, on one site.

* `Fresh w` — the worker has loaded its routes, and answered nothing yet (`ensures_bootstrap`);
* `ensures_event`, `run_events` — an installation and an activation, and any sequence of them: the generation of the worker
  holds nothing that was not fetched, and everything that is listed once an installation has succeeded;
* `exists_after_eq` — over a storage that answers as generations in memory do, the same happens;
* `Launch` — a worker that came about in this way, with its storage (`Launch.exists_generations`).
-/

namespace EdgeWorker

open EdgeWorker.Action EdgeWorker.Host EdgeWorker.Cache EdgeWorker.Cache.Generations

namespace Worker

variable {admits : Http.Request → Except Fetch.Error Http.Response → Prop} {gs : Generations} {w : Worker} {e : Event}
  {es : List Event} {names : String → Prop} {st : Storage} {σ τ : Type} {handle : Handler τ} {t : τ}

/-! ### Routes -/

/-- A worker that has loaded its routes, and answered nothing yet. -/
structure Fresh (w : Worker) : Prop where
  scope : ∃ origin basePath, Scope.of origin basePath = .ok w.table.scope
  cache : w.cache.scope = w.table.scope
  lists : w.table.Lists
  library : w.engine.library = .empty

theorem Fresh.enter (h : w.Fresh) (phase : Phase) : ({ w with phase } : Worker).Fresh :=
  ⟨h.scope, h.cache, h.lists, h.library⟩

theorem fresh_of {c : Config} (hw : of c = .ok w) : w.Fresh := by
  unfold of Route.Table.ofConfig Config.scope at hw
  cases hs : Scope.of c.origin c.basePath with
  | error e =>
    rw [hs] at hw
    cases hw
  | ok s =>
    rw [hs] at hw
    cases hw
    exact ⟨⟨_, _, hs⟩, rfl, nofun, rfl⟩

/-- A worker that has loaded its routes has put nothing into its generation but their templates. -/
theorem ensures_bootstrap (c : Config) (gs : Generations) :
    (bootstrap c).run.Ensures (inMemory admits) gs fun r gs' => ∀ w, r = .ok w →
      w.Fresh ∧ w.phase = .parsed ∧ w.cache.generation = c.cacheName ∧ w.cache.Gathers admits gs gs' := by
  cases hw : of c with
  | error e =>
    rw [bootstrap_of_error hw]
    refine ensures_pure.2 fun w' hw' => ?_
    cases hw'
  | ok w =>
    obtain ⟨-, hauthority, hcache, -, -⟩ := of_spec hw
    have hfresh := fresh_of hw
    have hphase : w.phase = .parsed := by
      unfold of at hw
      split at hw
      · cases hw
        rfl
      · cases hw
    rw [bootstrap_eq hw]
    refine Action.Ensures.bind (Route.Table.ensures_loadOrLog (by rw [hcache]) hauthority _ gs) ?_
    rintro ⟨n, table⟩ gs' ⟨hgathers, htable⟩
    refine ensures_pure.2 fun w' hw' => ?_
    cases hw'
    refine ⟨?_, hphase, by rw [show ({ w with table } : Worker).cache = w.cache from rfl, hcache], hgathers⟩
    rcases htable with rfl | ⟨m, rfl⟩
    · exact hfresh
    · obtain ⟨hscope, -, -⟩ := w.table.addAll_spec m
      exact ⟨hscope ▸ hfresh.scope, hfresh.cache.trans hscope.symm, hfresh.lists.addAll m, hfresh.library⟩

/-- With the manifest that the network answers with, the worker has its routes. -/
theorem run_bootstrap {handle : Handler σ} {s : σ} {c : Config} {m : Route.Manifest} (hw : of c = .ok w)
    (hm : ((Route.fetchManifest w.table.scope w.config.routesFile).run.run handle s).1 = .ok m) :
    ((bootstrap c).run.run handle s).1 = .ok { w with table := w.table.addAll m } := by
  have htable := Route.Table.run_loadOrLog_table handle w.table w.cache w.config.routesFile s
  rw [hm] at htable
  rw [bootstrap_eq hw, run_do, run_pure, htable]

/-! ### Installations and activations -/

/-- What an installation or an activation makes of the generation of a worker. -/
theorem ensures_event (he : e = .install ∨ e = .activate) (w : Worker) (gs : Generations) :
    (w.handle e).Ensures (inMemory admits) gs fun p gs' => (∃ phase, p.2 = { w with phase }) ∧
      Advances w.cache.generation gs gs' ∧ (w.cache.Sound admits gs → w.cache.Sound admits gs') ∧
      (e = .install → p.1.isOk → w.Stocked gs') ∧
      (e = .activate → p.1.isOk → ∃ now, gs'.entryAt? w.cache.generation readyMarker = some (.of 204 [] now)) := by
  rcases he with rfl | rfl
  · refine Action.Ensures.bind (w.ensures_install gs) ?_
    rintro _ _ (⟨x, rfl, rfl | rfl⟩ | ⟨entries, rfl, hentries, rfl⟩)
    · exact ensures_pure.2 ⟨⟨_, rfl⟩, (Grows.refl _ _).advances, id, nofun, nofun⟩
    · exact ensures_pure.2 ⟨⟨_, rfl⟩, (Grows.openGeneration _ _).advances, .openGeneration, nofun, nofun⟩
    · refine ensures_pure.2 ⟨⟨_, rfl⟩, ((Grows.openGeneration _ _).trans (.putAll _ _ _)).advances, fun hsound => ?_,
        fun _ _ => stocked_of_forall₂ hentries, nofun⟩
      refine hsound.openGeneration.putAll fun stored hstored => .inr ?_
      obtain ⟨path, -, hpath⟩ := exists_left_of_forall₂ hentries hstored
      exact ⟨path, hpath⟩
  · refine Action.Ensures.bind (w.yields_activate.ensures (w.ensures_activate gs)) ?_
    rintro p gs' ⟨hp, hpruned⟩
    obtain ⟨phase, hphase⟩ : ∃ phase, p.2 = { w with phase } := by
      rcases hp with ⟨names, rfl⟩ | ⟨x, rfl⟩ <;> exact ⟨_, rfl⟩
    refine ensures_pure.2 ⟨⟨phase, hphase⟩, hpruned.advances, fun hsound => ?_, nofun, fun _ hok => ?_⟩
    · obtain ⟨others, hg, -, hdone⟩ := hpruned
      have hothers := hsound.of_get?_eq hg
      split at hdone
      · obtain ⟨-, now, rfl⟩ := hdone
        exact hothers.putAll fun stored hstored => .inl (by rw [List.mem_singleton.1 hstored])
      · exact hdone ▸ hothers
    · obtain ⟨others, -, -, hdone⟩ := hpruned
      have hsucceeded : p.1.isOk := by
        cases hp1 : p.1 with
        | ok names => rfl
        | error x => rw [hp1] at hok; cases hok
      rw [if_pos hsucceeded] at hdone
      obtain ⟨-, now, rfl⟩ := hdone
      refine ⟨now, ?_⟩
      rw [entryAt?_putAll_self, show (Keyed.ofList [(readyMarker, Entry.of 204 [] now)]).get? readyMarker = _ from
        Keyed.get?_put_self _ _ _, Option.some_or]

/-- Some event of a sequence is an installation that succeeds. -/
def Installs (handle : Handler σ) (p : Worker × σ) (es : List Event) : Prop :=
  ∃ before rest, es = before ++ .install :: rest ∧ Succeeds handle (after handle p before) .install

theorem Installs.of_concat {handle : Handler σ} {p : Worker × σ} (h : Installs handle p (es ++ [e])) :
    Installs handle p es ∨ e = .install ∧ Succeeds handle (after handle p es) .install := by
  obtain ⟨before, rest, hes, hsucceeds⟩ := h
  rcases List.eq_nil_or_concat' rest with rfl | ⟨rest, x, rfl⟩
  · obtain ⟨rfl, he⟩ := List.append_inj' hes rfl
    exact .inr ⟨List.singleton_inj.1 he, hsucceeds⟩
  · rw [← List.cons_append, ← List.append_assoc] at hes
    obtain ⟨rfl, -⟩ := List.append_inj' hes rfl
    exact .inl ⟨before, rest, rfl, hsucceeds⟩

/-- What installations and activations make of the generation of a worker, over generations in memory. -/
theorem run_events (hadmits : ∀ r t, admits r (handle (.fetch r) t).1) (hes : ∀ e ∈ es, e = .install ∨ e = .activate)
    (w : Worker) (gs : Generations) (t : τ) :
    let p := after (keeping Generations.perform handle) (w, gs, t) es
    (∃ phase, p.1 = { w with phase }) ∧ Advances w.cache.generation gs p.2.1 ∧
      (w.cache.Sound admits gs → w.cache.Sound admits p.2.1) ∧
      (Installs (keeping Generations.perform handle) (w, gs, t) es → w.Stocked p.2.1) := by
  induction es using List.reverseRecOn with
  | nil => exact ⟨⟨_, rfl⟩, (Grows.refl _ _).advances, id, fun ⟨before, rest, h, _⟩ => by simp at h⟩
  | append_singleton es e ih =>
    obtain ⟨⟨phase, hphase⟩, hadvances, hsound, hstocked⟩ := ih fun x hx => hes x (List.mem_append_left _ hx)
    have he := hes e (List.mem_append_right _ List.mem_cons_self)
    have hinstalls (h : Installs (keeping Generations.perform handle) (w, gs, t) (es ++ [e])) := h.of_concat
    rw [after_concat]
    unfold Succeeds at hinstalls
    generalize after (keeping Generations.perform handle) (w, gs, t) es = p at *
    obtain ⟨w', gs', t'⟩ := p
    obtain rfl : w' = { w with phase } := hphase
    obtain ⟨⟨phase', hphase'⟩, hadvances', hsound', hstocked', -⟩ :=
      run_keeping (s := (gs', t')) hadmits (ensures_event he { w with phase } gs')
    refine ⟨⟨phase', hphase'⟩, hadvances.trans hadvances', hsound' ∘ hsound, fun h => ?_⟩
    rcases hinstalls h with hold | ⟨rfl, hsucceeds⟩
    · exact (hstocked hold).mono hadvances'.kept
    · exact hstocked' rfl hsucceeds

/-- The same happens over a storage that answers as generations in memory do. -/
theorem exists_after_eq (hes : ∀ e ∈ es, e = .install ∨ e = .activate) (hserves : st.Serves names gs)
    (hc : names w.cache.generation) : ∃ w' st' gs' t',
      after (keeping Storage.perform handle) (w, st, t) es = (w', st', t') ∧
      after (keeping Generations.perform handle) (w, gs, t) es = (w', gs', t') ∧ st'.Serves names gs' ∧
      (Installs (keeping Storage.perform handle) (w, st, t) es →
        Installs (keeping Generations.perform handle) (w, gs, t) es) := by
  induction es using List.reverseRecOn with
  | nil => exact ⟨w, st, gs, t, rfl, rfl, hserves, fun ⟨before, rest, h, _⟩ => by simp at h⟩
  | append_singleton es e ih =>
    obtain ⟨w', st', gs', t', hst, hgs, hserves', hinstalls⟩ := ih fun x hx => hes x (List.mem_append_left _ hx)
    have hcache : w'.cache = w.cache := by
      have hkept := (kept_after (keeping Generations.perform handle) (w, gs, t) es).2
      rwa [hgs] at hkept
    obtain ⟨⟨result, w''⟩, st'', gs'', t'', hrun, hrun', hserves''⟩ :=
      agrees_event (hes e (List.mem_append_right _ List.mem_cons_self)) hserves' (t := t') (by rwa [hcache])
    refine ⟨w'', st'', gs'', t'', ?_, ?_, hserves'', fun h => ?_⟩
    · rw [after_concat, hst, hrun]
    · rw [after_concat, hgs, hrun']
    · rcases h.of_concat with hold | ⟨rfl, hsucceeds⟩
      · obtain ⟨before, rest, rfl, hfirst⟩ := hinstalls hold
        exact ⟨before, rest ++ [e], by simp, hfirst⟩
      · refine ⟨es, [], rfl, ?_⟩
        unfold Succeeds at hsucceeds ⊢
        rw [hst, hrun] at hsucceeds
        rw [hgs, hrun']
        exact hsucceeds

/-! ### Workers that came about on a site -/

/-- How a worker came about on a site: it loaded its routes there, and was then told to install and to activate. Some
installation succeeded, and in the end the worker is active. What the storage had in its generation before, if anything,
was taken from the site. -/
structure Launch (network : Http.Request → Except Fetch.Error Http.Response) where
  {State : Type}
  handle : Handler State
  config : Config
  start : Storage × State
  /-- The worker that has loaded its routes. -/
  fresh : Worker
  events : List Event
  answers : ∀ r t, (handle (.fetch r) t).1 = network r
  serves : ∃ names gs, start.1.Serves names gs ∧ names config.cacheName ∧
    fresh.cache.Sound (Answering network) gs
  loaded : ((bootstrap config).run.run (keeping Storage.perform handle) start).1 = .ok fresh
  told : ∀ e ∈ events, e = .install ∨ e = .activate
  installed : Installs (keeping Storage.perform handle)
    (fresh, ((bootstrap config).run.run (keeping Storage.perform handle) start).2) events
  active : (after (keeping Storage.perform handle)
    (fresh, ((bootstrap config).run.run (keeping Storage.perform handle) start).2) events).1.phase = .activated

namespace Launch

variable {network : Http.Request → Except Fetch.Error Http.Response}

def final (l : Launch network) : Worker × Storage × l.State := Worker.after (keeping Storage.perform l.handle)
  (l.fresh, ((bootstrap l.config).run.run (keeping Storage.perform l.handle) l.start).2) l.events

def worker (l : Launch network) : Worker := l.final.1

def storage (l : Launch network) : Storage := l.final.2.1

/-- In the end the generation of the worker has the answers of the site for all that the worker asks for, its mark, and
nothing else but answers of the site. -/
theorem exists_generations (l : Launch network) : l.worker.Fresh ∧ l.worker.phase = .activated ∧ ∃ names gs,
    l.storage.Serves names gs ∧ names l.worker.cache.generation ∧ l.worker.cache.Sound (Answering network) gs ∧
    l.worker.Stocked gs ∧ ∃ now, gs.entryAt? l.worker.cache.generation readyMarker = some (.of 204 [] now) := by
  unfold worker storage final
  obtain ⟨handle, c, ⟨st, t⟩, w, es, hanswers, ⟨names, gs, hserves, hc, hsound⟩, hloaded, htold, hinstalled, hactive⟩ := l
  dsimp only at hserves hloaded hinstalled hactive ⊢
  -- what happens is what would happen over generations in memory
  have hagrees : Agrees names handle (bootstrap c).run st gs t := agrees_of_asks (names_bootstrap hc) hserves
  obtain ⟨booted, st₁, gs₁, t₁, hst₁, hgs₁, hserves₁⟩ := hagrees
  have hadmits : ∀ r t, Answering network r (handle (.fetch r) t).1 := hanswers
  have hbooted := run_keeping (s := (gs, t)) hadmits (ensures_bootstrap c gs)
  rw [hst₁] at hloaded hinstalled hactive ⊢
  rw [hgs₁] at hbooted
  obtain rfl : booted = .ok w := hloaded
  obtain ⟨hfresh, hphase, hgeneration, hgathers⟩ := hbooted w rfl
  rw [← hgeneration] at hc
  obtain ⟨w', st₂, gs₂, t₂, hst₂, hgs₂, hserves₂, hinstalls⟩ := exists_after_eq (t := t₁) htold hserves₁ hc
  obtain ⟨⟨phase, hw'⟩, -, hsound₂, hstocked⟩ := run_events hadmits htold w gs₁ t₁
  rw [hst₂] at hactive ⊢
  have hmark : ∃ now, gs₂.entryAt? w.cache.generation readyMarker = some (.of 204 [] now) := by
    -- the activation was the last event
    have hparsed : (w, gs₁, t₁).1.phase ≠ .activated := by simp [hphase]
    obtain ⟨first, rest, rfl, hsucceeds, hrest⟩ := (activated_iff _ hparsed es).1 (by rw [hgs₂]; exact hactive)
    obtain rfl : rest = [] := by
      refine List.eq_nil_iff_forall_not_mem.2 fun e he => ?_
      obtain ⟨r, rfl⟩ := hrest e he
      exact (htold (.fetch r) (by simp [he])).elim nofun nofun
    have hfirst : ∀ e ∈ first, e = .install ∨ e = .activate := fun e he => htold e (List.mem_append_left _ he)
    obtain ⟨⟨phase', hw''⟩, -, -, -⟩ := run_events hadmits hfirst w gs₁ t₁
    rw [after_concat] at hgs₂
    unfold Succeeds at hsucceeds
    generalize after (keeping Generations.perform handle) (w, gs₁, t₁) first = p at hgs₂ hsucceeds hw''
    obtain ⟨_, gs', t'⟩ := p
    obtain rfl := hw''
    obtain ⟨-, -, -, -, hmarked⟩ :=
      run_keeping (s := (gs', t')) hadmits (ensures_event (.inr rfl) { w with phase := phase' } gs')
    rw [← show _ = gs₂ from congrArg (·.2.1) hgs₂]
    exact hmarked rfl hsucceeds
  rw [hgs₂] at hw' hsound₂ hstocked
  obtain rfl : w' = { w with phase } := hw'
  exact ⟨hfresh.enter phase, hactive, names, gs₂, hserves₂, hc, hsound₂ (hgathers.sound hsound),
    hstocked (hinstalls hinstalled), hmark⟩

end Launch
end Worker
end EdgeWorker
