import EdgeWorker.Proofs.Worker.Visit

/-!
Workers over a storage that answers as generations in memory do (`Storage.Serves`): they end alike, and leave both alike.

* `agrees_event` — an installation and an activation;
* `agrees_start`, `agrees_serve` — a request, up to where its worker answers and as a whole;
* `Visit.exists_course_eq` — requests one after another.
-/

namespace EdgeWorker

open EdgeWorker.Action EdgeWorker.Host EdgeWorker.Cache

variable {names : String → Prop} {st : Storage} {gs : Generations} {τ : Type} {handle : Handler τ} {t : τ}

namespace Worker

variable {w : Worker} {c : Config} {e : Event}

/-! ### What is asked -/

/-- A worker that loads its routes asks about its generation only. -/
theorem names_bootstrap (hc : names c.cacheName) : Asks (Question.Names names) (bootstrap c).run := by
  cases hw : of c with
  | error e =>
    rw [bootstrap_of_error hw]
    exact asks_pure _
  | ok w =>
    obtain ⟨-, -, hcache, -, -⟩ := of_spec hw
    rw [bootstrap_eq hw]
    exact (w.table.names_loadOrLog (by rwa [hcache]) _).bind fun _ => asks_pure _

theorem yields_bootstrap (c : Config) :
    Yields (fun booted => ∀ w, booted = .ok w → w.cache.generation = c.cacheName) (bootstrap c).run := by
  cases hw : of c with
  | error e =>
    rw [bootstrap_of_error hw]
    refine yields_pure fun w hw => ?_
    cases hw
  | ok w =>
    obtain ⟨-, -, hcache, -, -⟩ := of_spec hw
    rw [bootstrap_eq hw]
    refine yields_bind fun loaded => yields_pure fun w' hw' => ?_
    cases hw'
    exact congrArg Current.generation hcache

theorem names_resume (hc : names w.cache.generation) : Asks (Question.Names names) w.resume := by
  unfold resume
  refine (Current.names_isReady hc).bind fun ready => ?_
  split
  · exact (asks_enter (fun _ => trivial) w _).bind fun _ => asks_pure _
  · exact asks_pure _
  · exact asks_pure _

theorem names_install (hc : names w.cache.generation) : Asks (Question.Names names) w.install :=
  w.asks_install (fun _ => trivial) (Current.names_install hc _)

theorem names_finish (hc : names w.cache.generation) (r : Http.Request) (readiness : Readiness) :
    Asks (Question.Names names) (finish r readiness w) := by
  refine asks_finish_of (fun _ => trivial) ((w.names_answer r).mono fun q hq => hq.mono ?_) readiness
  rintro g rfl
  exact hc

/-! ### One worker -/

/-- An activation deletes generations that the storage has, so their names are among these. -/
theorem agrees_activate (hserves : st.Serves names gs) (hc : names w.cache.generation) :
    Agrees names handle w.activate st gs t := by
  have henter (w : Worker) (phase : Phase) := asks_enter (P := Question.Names names) (fun _ => trivial) w phase
  unfold activate
  refine agrees_bind_of_runs (runs_enter (fun _ => trivial) w .activating) hserves ?_
  rintro _ st' gs' t' rfl hserves'
  have hactivate : Agrees names handle (do
      let pruned ← w.cache.activate
      w.cache.markReady
      return pruned : Attempt Cache.Error (List String)).run st' gs' t' :=
    (Host.agrees_activate hserves' _).attempt fun _ => (Current.names_markReady hc).attempt fun _ => asks_pure _
  refine hactivate.bind fun result st'' gs'' t'' _ hserves'' => ?_
  cases result with
  | ok names => exact agrees_of_asks ((henter _ _).bind fun _ => asks_pure _) hserves''
  | error x => exact agrees_of_asks (asks_pure _) hserves''

/-- An installation or an activation ends alike over both. -/
theorem agrees_event (he : e = .install ∨ e = .activate) (hserves : st.Serves names gs) (hc : names w.cache.generation) :
    Agrees names handle (w.handle e) st gs t := by
  rcases he with rfl | rfl
  · exact agrees_of_asks ((names_install hc).bind fun _ => asks_pure _) hserves
  · exact (agrees_activate hserves hc).bind fun _ _ _ _ _ hserves' => agrees_of_asks (asks_pure _) hserves'

theorem agrees_prepare (hserves : st.Serves names gs) (hc : names w.cache.generation) :
    Agrees names handle w.prepare st gs t := by
  unfold prepare
  refine agrees_bind_of_runs ((names_resume hc).runs_of_yields w.yields_resume) hserves ?_
  rintro ⟨e | ⟨⟨⟩⟩, _⟩ st' gs' t' ⟨phase, rfl⟩ hserves'
  · exact agrees_of_asks (asks_pure _) hserves'
  · have hinstall := (names_install (w := { w with phase }) hc).runs_of_yields (yields_install _)
    refine agrees_bind_of_runs hinstall hserves' ?_
    rintro _ st'' gs'' t'' (⟨n, rfl⟩ | ⟨e, rfl⟩) hserves''
    · refine (agrees_activate hserves'' hc).bind fun activated _ _ _ _ hserves => ?_
      obtain ⟨e | names, w⟩ := activated <;> exact agrees_of_asks (asks_pure _) hserves
    · exact agrees_of_asks (asks_pure _) hserves''
  · exact agrees_of_asks (asks_pure _) hserves'

/-! ### One request -/

/-- The worker of a request has the generation of its configuration. -/
theorem yields_start (c : Config) (r : Http.Request) : Yields (fun started => ∀ r' readiness w,
    started = .ok (r', readiness, w) → w.cache.generation = c.cacheName) (start c r).run := by
  unfold start
  split
  · refine yields_pure fun _ _ _ h => ?_
    cases h
  · refine (yields_bootstrap c).bind fun booted hbooted => ?_
    cases booted with
    | error e =>
      refine yields_bind fun _ => yields_pure fun _ _ _ h => ?_
      cases h
    | ok w =>
      refine w.yields_prepare.bind ?_
      rintro ⟨readiness, _⟩ ⟨phase, rfl⟩
      refine yields_pure fun r' readiness' w' hw' => ?_
      cases hw'
      exact hbooted w rfl

theorem agrees_start (hserves : st.Serves names gs) (hc : names c.cacheName) (r : Http.Request) :
    Agrees names handle (start c r).run st gs t := by
  unfold start
  split
  · exact agrees_of_asks (asks_pure _) hserves
  · have hboots := (names_bootstrap hc).runs_of_yields (yields_bootstrap c)
    refine agrees_bind_of_runs hboots hserves fun booted st' gs' t' hbooted hserves' => ?_
    cases booted with
    | error e => exact agrees_of_asks (Asks.bind (asks_log trivial) fun _ => asks_pure _) hserves'
    | ok w =>
      refine (agrees_prepare hserves' (by rwa [hbooted w rfl])).bind fun prepared _ _ _ _ hserves'' => ?_
      exact agrees_of_asks (asks_pure _) hserves''

theorem agrees_serve (hserves : st.Serves names gs) (hc : names c.cacheName) (r : Http.Request) :
    Agrees names handle (serve c r) st gs t := by
  rw [serve_eq]
  refine (agrees_start hserves hc r).bind fun started st' gs' t' hrun hserves' => ?_
  have hstarted := (yields_start c r).runs.result (keeping Generations.perform handle) (gs, t)
  rw [hrun] at hstarted
  obtain response | ⟨r', readiness, w⟩ := started
  · exact agrees_of_asks (asks_pure _) hserves'
  · have hgeneration : w.cache.generation = c.cacheName := hstarted r' readiness w rfl
    exact agrees_of_asks (names_finish (by rwa [hgeneration]) r' readiness) hserves'

end Worker

/-! ### Requests one after another -/

namespace Visit

variable {v : Visit τ}

theorem exists_after_eq (hserves : st.Serves names gs) (hc : names v.config.cacheName) (t : τ) : ∃ st' gs' t',
    v.after Storage.perform (st, t) = (st', t') ∧ v.after Generations.perform (gs, t) = (gs', t') ∧
      st'.Serves names gs' := by
  have hagrees : Agrees names v.handle _ st gs t := Worker.agrees_serve hserves hc v.request
  obtain ⟨response, st', gs', t', hst, hgs, hserves'⟩ := hagrees
  exact ⟨st', gs', t', congrArg Prod.snd hst, congrArg Prod.snd hgs, hserves'⟩

theorem started_eq (hserves : st.Serves names gs) (hc : names v.config.cacheName) (t : τ) :
    v.started Storage.perform (st, t) = v.started Generations.perform (gs, t) := by
  have hagrees : Agrees names v.handle _ st gs t := Worker.agrees_start hserves hc v.request
  obtain ⟨started, st', gs', t', hst, hgs, -⟩ := hagrees
  exact (congrArg Prod.fst hst).trans (congrArg Prod.fst hgs).symm

theorem exists_course_eq (hserves : st.Serves names gs) (vs : List (Visit τ)) (hvs : ∀ v ∈ vs, names v.config.cacheName)
    (t : τ) : ∃ st' gs' t', course Storage.perform vs (st, t) = (st', t') ∧
      course Generations.perform vs (gs, t) = (gs', t') ∧ st'.Serves names gs' := by
  induction vs generalizing st gs t with
  | nil => exact ⟨st, gs, t, rfl, rfl, hserves⟩
  | cons v vs ih =>
    obtain ⟨st', gs', t', hst, hgs, hserves'⟩ := v.exists_after_eq hserves (hvs v List.mem_cons_self) t
    rw [course_cons, course_cons, hst, hgs]
    exact ih hserves' (fun u hu => hvs u (List.mem_cons_of_mem _ hu)) t'

end Visit
end EdgeWorker
