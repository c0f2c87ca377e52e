import EdgeWorker.Proofs.Worker.Stages

/-!
What a request makes of a storage in memory, whatever the network answers and whatever the storage refuses.

* `Readiness.Leads` — what becomes of a storage as the worker gets this far, with `ensures_prepare` and `ensures_start`;
* `Visit`, `course` — requests one after another, each with a configuration and surroundings of its own;
* `Visit.spec` — one of them.
-/

namespace EdgeWorker

open EdgeWorker.Action EdgeWorker.Host EdgeWorker.Cache EdgeWorker.Cache.Generations

theorem exists_left_of_forall₂ {α β : Type} {R : α → β → Prop} {xs : List α} {ys : List β} {y : β}
    (h : List.Forall₂ R xs ys) (hy : y ∈ ys) : ∃ x ∈ xs, R x y := by
  induction h with
  | nil => cases hy
  | cons hr _ ih =>
    rcases List.mem_cons.1 hy with rfl | hy
    · exact ⟨_, List.mem_cons_self, hr⟩
    · obtain ⟨x, hx, hxy⟩ := ih hy
      exact ⟨x, List.mem_cons_of_mem _ hx, hxy⟩

namespace Cache.Generations

variable {gs gs' : Generations} {g h : String}

theorem not_isMarked_of_get?_none (hn : gs.get? h = none) : ¬ gs.IsMarked h := by
  unfold IsMarked entryAt?
  simp [hn]

/-- Where other generations were dropped or not, there are no new marks. -/
theorem isMarked_of_others (ho : ∀ h, gs'.get? h = gs.get? h ∨ gs'.get? h = none) (hm : gs'.IsMarked h) :
    gs.IsMarked h := by
  rcases ho h with he | hn
  · unfold IsMarked entryAt? at hm ⊢
    rwa [← he]
  · exact absurd hm (not_isMarked_of_get?_none hn)

theorem advances_of_others (hg : gs'.get? g = gs.get? g) (ho : ∀ h, gs'.get? h = gs.get? h ∨ gs'.get? h = none) :
    Advances g gs gs' := ⟨fun h _ => ho h, .of_get?_eq hg⟩

theorem keys_eq_singleton (hg : g ∈ gs.keys) (ho : ∀ h, h ≠ g → gs.get? h = none) : gs.keys = [g] := by
  have hall : ∀ h ∈ gs.keys, h = g := by
    intro h hh
    by_contra hne
    rw [Keyed.mem_keys, ho h hne] at hh
    cases hh
  have hdistinct : gs.keys.Nodup := gs.distinct
  rcases hk : gs.keys with _ | ⟨k, _ | ⟨l, ks⟩⟩
  · rw [hk] at hg
    cases hg
  · rw [hall k (by simp [hk])]
  · rw [hk, hall k (by simp [hk]), hall l (by simp [hk])] at hdistinct
    simp at hdistinct

end Cache.Generations

namespace Worker

variable {admits : Http.Request → Except Fetch.Error Http.Response → Prop} {gs gs' gs'' : Generations} {w : Worker}
  {g : String}

/-! ### Becoming active -/

theorem ensures_enter (w : Worker) (phase : Phase) (gs : Generations) :
    (w.enter phase).Ensures (inMemory admits) gs fun w' gs' => w' = { w with phase } ∧ gs' = gs :=
  Action.Ensures.bind (R := fun _ gs' => gs' = gs) (ensures_log.2 rfl) fun _ _ h => ensures_pure.2 ⟨rfl, h⟩

theorem ensures_resume (w : Worker) (gs : Generations) :
    w.resume.Ensures (inMemory admits) gs fun p gs' => gs' = gs ∧ ((∃ e, p = (.error e, w)) ∨
      p = (.ok true, { w with phase := .activated }) ∧ gs.IsMarked w.cache.generation ∨
      p = (.ok false, w) ∧ ¬ gs.IsMarked w.cache.generation) := by
  unfold resume
  refine Action.Ensures.bind (w.cache.ensures_isReady gs) ?_
  rintro r _ ⟨rfl, hr⟩
  obtain e | ⟨⟨⟩⟩ := r
  · exact ensures_pure.2 ⟨rfl, .inl ⟨_, rfl⟩⟩
  · exact ensures_pure.2 ⟨rfl, .inr (.inr ⟨rfl, fun hm => nomatch (hr false rfl).2 hm⟩)⟩
  · refine Action.Ensures.bind (w.ensures_enter _ _) ?_
    rintro _ _ ⟨rfl, rfl⟩
    exact ensures_pure.2 ⟨rfl, .inr (.inl ⟨rfl, (hr true rfl).1 rfl⟩)⟩

/-- A worker stores all that its table asks for, or nothing. -/
theorem ensures_install (w : Worker) (gs : Generations) :
    w.install.Ensures (inMemory admits) gs fun p gs' =>
      (∃ e, p = (.error e, { w with phase := .redundant }) ∧ (gs' = gs ∨ gs' = gs.openGeneration w.cache.generation)) ∨
      ∃ entries, p = (.ok entries.length, { w with phase := .installed }) ∧
        List.Forall₂ (w.cache.Obtains admits) w.table.manifest.paths entries ∧
        gs' = (gs.openGeneration w.cache.generation).putAll w.cache.generation entries := by
  unfold install
  refine Action.Ensures.bind (w.ensures_enter _ gs) ?_
  rintro _ _ ⟨rfl, rfl⟩
  refine Action.Ensures.bind (Current.ensures_install _ _ _) ?_
  rintro _ gs' (⟨⟨e, rfl⟩, hgs⟩ | ⟨entries, rfl, hentries, hgs⟩)
  · refine ensures_bind.2 (ensures_log.2 (Action.Ensures.bind (ensures_enter _ _ _) ?_))
    rintro _ _ ⟨rfl, rfl⟩
    exact ensures_pure.2 (.inl ⟨_, rfl, hgs⟩)
  · refine Action.Ensures.bind (ensures_enter _ _ _) ?_
    rintro _ _ ⟨rfl, rfl⟩
    exact ensures_pure.2 (.inr ⟨entries, rfl, hentries, hgs⟩)

/-- All other generations were dropped and this one was marked, or some others were dropped. -/
def Pruned (g : String) (gs : Generations) (done : Bool) (gs' : Generations) : Prop :=
  ∃ others : Generations, others.get? g = gs.get? g ∧ (∀ h, others.get? h = gs.get? h ∨ others.get? h = none) ∧
    if done then (∀ h, h ≠ g → others.get? h = none) ∧ ∃ now, gs' = others.putAll g [(readyMarker, .of 204 [] now)]
    else gs' = others

theorem ensures_activate (w : Worker) (gs : Generations) :
    w.activate.Ensures (inMemory admits) gs fun p gs' => Pruned w.cache.generation gs p.1.isOk gs' := by
  unfold activate
  refine Action.Ensures.bind (w.ensures_enter _ gs) ?_
  rintro _ s ⟨rfl, rfl⟩
  refine Action.Ensures.bind (R := fun r gs' => Pruned w.cache.generation s r.isOk gs') ?_ ?_
  · refine Host.Ensures.attempt (Current.ensures_activate _ s) ?_ fun e gs' ⟨hg, ho, _⟩ => ⟨gs', hg, ho, rfl⟩
    rintro names others ⟨hg, ho, hdropped⟩
    refine Host.Ensures.attempt (Current.ensures_markReady _ _) ?_ ?_
    · rintro _ gs' (⟨⟨e, he⟩, -⟩ | ⟨-, now, rfl⟩)
      · cases he
      · exact ensures_pure.2 ⟨others, hg, ho, hdropped names rfl, now, rfl⟩
    · rintro e gs' (⟨-, rfl⟩ | ⟨he, -⟩)
      · exact ⟨gs', hg, ho, rfl⟩
      · cases he
  · rintro (e | names) gs' h
    · exact ensures_pure.2 h
    · refine Action.Ensures.bind (ensures_enter _ _ _) ?_
      rintro _ _ ⟨-, rfl⟩
      exact ensures_pure.2 h

/-- What becomes of a storage as a worker gets this far. `Full` is what a storage is like that has everything which the
worker asks for. -/
def Readiness.Leads (g : String) (Full : Generations → Prop) (gs gs' : Generations) : Readiness → Prop
  | unknown _ | notInstalled _ => Fills g gs gs'
  | resumed => Fills g gs gs' ∧ gs.IsMarked g
  | notActivated _ => Advances g gs gs' ∧ ∀ h, gs'.IsMarked h → gs.IsMarked h
  | completed => ¬ gs.IsMarked g ∧ Advances g gs gs' ∧ gs'.keys = [g] ∧ gs'.IsMarked g ∧ Full gs'

namespace Readiness

variable {Full : Generations → Prop} {readiness : Readiness}

theorem Leads.after_fills (hf : Fills g gs gs') (h : readiness.Leads g Full gs' gs'') : readiness.Leads g Full gs gs'' := by
  cases readiness with
  | unknown e | notInstalled e => exact hf.trans h
  | resumed => exact ⟨hf.trans h.1, hf.isMarked_iff.1 h.2⟩
  | notActivated e => exact ⟨hf.advances.trans h.1, fun k hk => hf.isMarked_iff.1 (h.2 k hk)⟩
  | completed => exact ⟨fun hm => h.1 (hf.isMarked_iff.2 hm), hf.advances.trans h.2.1, h.2.2⟩

theorem Leads.advances (h : readiness.Leads g Full gs gs') : Advances g gs gs' := by
  cases readiness with
  | unknown e | notInstalled e => exact h.advances
  | resumed => exact h.1.advances
  | notActivated e => exact h.1
  | completed => exact h.2.1

/-- A new mark is that of a worker which was installed and activated. -/
theorem Leads.isMarked {k : String} (h : readiness.Leads g Full gs gs') (hm : gs'.IsMarked k) :
    gs.IsMarked k ∨ readiness = completed ∧ k = g := by
  cases readiness with
  | unknown e | notInstalled e => exact .inl (h.isMarked_iff.1 hm)
  | resumed => exact .inl (h.1.isMarked_iff.1 hm)
  | notActivated e => exact .inl (h.2 k hm)
  | completed =>
    have hk := mem_keys_of_isMarked hm
    rw [h.2.2.1] at hk
    exact .inr ⟨rfl, List.mem_singleton.1 hk⟩

end Readiness

/-- The worker has an entry for all that its table asks for. -/
def Full (w : Worker) (gs : Generations) : Prop := ∀ path ∈ w.table.manifest.paths, w.cache.Has gs path

variable {filled : Generations} {entries : List (String × Entry)}

/-- There is a request for all that its table asks for, and an entry under its key. -/
def Stocked (w : Worker) (gs : Generations) : Prop := ∀ path ∈ w.table.manifest.paths, ∃ key,
  w.cache.scope.LeadsTo path key ∧ (gs.entryAt? w.cache.generation key).isSome

theorem Stocked.full (h : w.Stocked gs) : w.Full gs := by
  intro path hpath
  obtain ⟨key, ⟨url, request, hurl, -, rfl⟩, hkey⟩ := h path hpath
  exact ⟨url, hurl, hkey⟩

theorem Stocked.mono (h : w.Stocked gs) (hr : Retains w.cache.generation gs gs') : w.Stocked gs' := by
  intro path hpath
  obtain ⟨key, hleads, hkey⟩ := h path hpath
  exact ⟨key, hleads, hr key hkey⟩

/-- An installation puts all that is asked for into its generation. -/
theorem stocked_of_forall₂ (hentries : List.Forall₂ (w.cache.Obtains admits) w.table.manifest.paths entries) :
    w.Stocked (gs.putAll w.cache.generation entries) := by
  intro path hpath
  obtain ⟨stored, hmem, hstored : w.cache.Obtains admits path stored⟩ := exists_left_of_forall₂ hentries.flip hpath
  exact ⟨stored.1, hstored.leadsTo, isSome_entryAt?_putAll _ (List.mem_map_of_mem hmem)⟩

/-- It marks nothing where no path leads to the mark. -/
theorem fills_of_forall₂ (hm : ∀ path ∈ w.table.manifest.paths, ¬ w.cache.scope.LeadsTo path readyMarker)
    (hentries : List.Forall₂ (w.cache.Obtains admits) w.table.manifest.paths entries) :
    Fills w.cache.generation gs ((gs.openGeneration w.cache.generation).putAll w.cache.generation entries) := by
  refine (Fills.openGeneration gs _).trans (.putAll _ _ fun hk => ?_)
  obtain ⟨stored, hmem, hkey⟩ := List.mem_map.1 hk
  obtain ⟨path, hpath, hstored⟩ := exists_left_of_forall₂ hentries hmem
  exact hm path hpath (hkey ▸ hstored.leadsTo)

theorem Pruned.advances {done : Bool} (h : Pruned g filled done gs') : Advances g filled gs' := by
  obtain ⟨others, hg, ho, hdone⟩ := h
  cases done with
  | false => exact (show gs' = others from hdone) ▸ advances_of_others hg ho
  | true =>
    obtain ⟨-, now, rfl⟩ : _ ∧ ∃ now, gs' = _ := hdone
    exact (advances_of_others hg ho).trans (Grows.putAll _ _ _).advances

/-- There are no new marks where it was not completed. -/
theorem Pruned.isMarked (h : Pruned g filled false gs') {k : String} (hm : gs'.IsMarked k) : filled.IsMarked k := by
  obtain ⟨others, -, ho, hdone⟩ := h
  obtain rfl : gs' = others := hdone
  exact isMarked_of_others ho hm

/-- There is one generation where it was completed, and it is marked. -/
theorem Pruned.keys (h : Pruned g filled true gs') : gs'.keys = [g] ∧ gs'.IsMarked g := by
  obtain ⟨others, -, -, hdone⟩ := h
  obtain ⟨hdropped, now, rfl⟩ : _ ∧ ∃ now, gs' = _ := hdone
  have hnew := isMarked_putAll_marker others g (.of 204 [] now)
  refine ⟨keys_eq_singleton (mem_keys_of_isMarked hnew) fun h hne => ?_, hnew⟩
  exact (get?_putAll _ _ _ _).trans ((if_neg hne).trans (hdropped h hne))

theorem ensures_prepare (w : Worker) (hm : ∀ path ∈ w.table.manifest.paths, ¬ w.cache.scope.LeadsTo path readyMarker)
    (gs : Generations) : w.prepare.Ensures (inMemory admits) gs fun p gs' =>
      p.1.Leads w.cache.generation w.Full gs gs' := by
  unfold prepare
  refine Action.Ensures.bind (w.ensures_resume gs) ?_
  rintro _ gs ⟨rfl, ⟨e, rfl⟩ | ⟨rfl, hmarked⟩ | ⟨rfl, hmarked⟩⟩
  · exact ensures_pure.2 (Fills.refl _ _)
  · exact ensures_pure.2 ⟨Fills.refl _ _, hmarked⟩
  · refine Action.Ensures.bind (w.ensures_install gs) ?_
    rintro _ _ (⟨e, rfl, rfl | rfl⟩ | ⟨entries, rfl, hentries, rfl⟩)
    · exact ensures_pure.2 (Fills.refl _ _)
    · exact ensures_pure.2 (Fills.openGeneration _ _)
    · have hfills : Fills _ gs _ := fills_of_forall₂ hm hentries
      have hfull : w.Full ((gs.openGeneration w.cache.generation).putAll w.cache.generation entries) :=
        (stocked_of_forall₂ hentries).full
      refine Action.Ensures.bind (ensures_activate _ _) ?_
      rintro ⟨e | names, w'⟩ gs' hpruned
      · exact ensures_pure.2
          ⟨hfills.advances.trans hpruned.advances, fun h hh => hfills.isMarked_iff.1 (hpruned.isMarked hh)⟩
      · obtain ⟨hkeys, hnew⟩ := hpruned.keys
        exact ensures_pure.2 ⟨hmarked, hfills.advances.trans hpruned.advances, hkeys, hnew,
          fun path hpath => (hfull path hpath).mono hpruned.advances.kept⟩

/-! ### Requests -/

theorem authority_of_scope {c : Config} {s : Scope} (hs : c.scope = .ok s) : s.base.authority.isSome := by
  unfold Config.scope at hs
  split at hs
  · next hof =>
    cases hs
    exact Scope.authority_of hof
  · cases hs

/-- What a worker of a configuration begins with. -/
theorem of_spec {c : Config} (hw : of c = .ok w) : c.scope = .ok w.table.scope ∧ w.table.scope.base.authority.isSome ∧
    w.cache = ⟨w.table.scope, c.cacheName⟩ ∧ w.config = c ∧ w.table.manifest = .ofPaths c.staticAssets := by
  unfold of Route.Table.ofConfig at hw
  cases hs : c.scope with
  | error e =>
    rw [hs] at hw
    cases hw
  | ok s =>
    rw [hs] at hw
    cases hw
    exact ⟨rfl, authority_of_scope hs, rfl, rfl, rfl⟩

end Worker

/-- No resource of the configuration is kept under the key of the mark. -/
def Config.Unmarking (c : Config) : Prop :=
  ∀ s, c.scope = .ok s → ∀ path ∈ c.staticAssets, ¬ s.LeadsTo path readyMarker

theorem Config.unmarking_of_slash {c : Config} (hc : ∀ path ∈ c.staticAssets, '/' ∈ path.toList) : c.Unmarking :=
  fun _ hs path hpath => Scope.not_leadsTo_marker (Worker.authority_of_scope hs) (hc path hpath)

namespace Worker

/-- What is done before the worker answers. Without a worker that is nothing, and a worker has the routes of a manifest
or none. -/
theorem ensures_start {c : Config} (hc : c.Unmarking) (r : Http.Request) (gs : Generations) :
    (start c r).run.Ensures (inMemory admits) gs fun started gs' => match started with
      | .error _ => gs' = gs
      | .ok (_, readiness, w) => ∃ w₀, of c = .ok w₀ ∧ w.cache = w₀.cache ∧
          (w.table = w₀.table ∨ ∃ m, w.table = w₀.table.addAll m) ∧ readiness.Leads c.cacheName w.Full gs gs' := by
  unfold start
  split
  · exact ensures_pure.2 rfl
  · next r' _ =>
    cases hw : of c with
    | error e =>
      rw [ExceptT.run_mk, bootstrap_of_error hw, pure_bind]
      exact ensures_bind.2 (ensures_log.2 (ensures_pure.2 rfl))
    | ok w =>
      obtain ⟨hscope, hauthority, hcache, rfl, hmanifest⟩ := of_spec hw
      rw [ExceptT.run_mk, bootstrap_eq hw, LawfulMonad.bind_assoc]
      have hsame : w.cache.scope = w.table.scope := by rw [hcache]
      refine Action.Ensures.bind (Route.Table.ensures_loadOrLog hsame hauthority _ gs) ?_
      rintro ⟨n, table⟩ gs' ⟨hgathers, htable⟩
      rw [pure_bind]
      -- what the table asks for are resources of the configuration and templates
      have hm : ∀ path ∈ table.manifest.paths, ¬ w.cache.scope.LeadsTo path readyMarker := by
        intro path hpath
        rw [hsame]
        have hasset : path ∈ w.table.manifest.paths → ¬ w.table.scope.LeadsTo path readyMarker := by
          rw [hmanifest, Manifest.mem_ofPaths]
          exact hc _ hscope path
        rcases htable with rfl | ⟨m, rfl⟩
        · exact hasset hpath
        · rcases ((w.table.addAll_spec m).2.2 path).1 hpath with hpath | hpath
          · exact hasset hpath
          · exact Scope.not_leadsTo_marker hauthority (Route.Table.slash_mem_of_templatesOf hpath)
      refine Action.Ensures.bind ((yields_prepare { w with table }).ensures (ensures_prepare _ hm gs')) ?_
      rintro ⟨readiness, _⟩ gs'' ⟨⟨phase, rfl⟩, hleads⟩
      refine ensures_pure.2 ⟨w, rfl, rfl, htable, ?_⟩
      rw [show w.config.cacheName = w.cache.generation by rw [hcache]]
      exact Readiness.Leads.after_fills hgathers.toFills hleads

end Worker

/-! ### Requests one after another -/

/-- A request to a configuration, in surroundings of its own. -/
structure Visit (τ : Type) where
  config : Config
  request : Http.Request
  handle : Handler τ

namespace Visit

variable {κ τ : Type} (perform : κ → (op : Operation) → op.Answer × κ)

def after (v : Visit τ) (s : κ × τ) : κ × τ :=
  ((Worker.serve v.config v.request).run (keeping perform v.handle) s).2

def course (vs : List (Visit τ)) (s : κ × τ) : κ × τ := vs.foldl (fun s v => v.after perform s) s

/-- What is done of a request before its worker answers: a response, or the worker and how far it gets. -/
def started (v : Visit τ) (s : κ × τ) : Except Http.Response (Http.Request × Worker.Readiness × Worker) :=
  ((Worker.start v.config v.request).run.run (keeping perform v.handle) s).1

/-- The worker of the request was installed and activated. -/
def Completes (v : Visit τ) (s : κ × τ) : Prop := ∃ r w, v.started perform s = .ok (r, .completed, w)

/-- The worker of the request could not be installed. -/
def FailsToInstall (v : Visit τ) (s : κ × τ) : Prop := ∃ r e w, v.started perform s = .ok (r, .notInstalled e, w)

variable {perform} {v : Visit τ} {vs : List (Visit τ)}

theorem course_cons (v : Visit τ) (vs : List (Visit τ)) (s : κ × τ) :
    course perform (v :: vs) s = course perform vs (v.after perform s) := rfl

theorem course_append (vs vs' : List (Visit τ)) (s : κ × τ) :
    course perform (vs ++ vs') s = course perform vs' (course perform vs s) := List.foldl_append

theorem course_concat (vs : List (Visit τ)) (v : Visit τ) (s : κ × τ) :
    course perform (vs ++ [v]) s = v.after perform (course perform vs s) := course_append vs [v] s

variable {s : Generations × τ}

/-- The rest of a request changes nothing that is stored. -/
theorem after_fst (v : Visit τ) (s : Generations × τ) : (v.after Generations.perform s).1 =
    ((Worker.start v.config v.request).run.run (keeping Generations.perform v.handle) s).2.1 := by
  unfold after
  rw [Worker.serve_eq, run_do]
  rcases (Worker.start v.config v.request).run.run (keeping Generations.perform v.handle) s with
    ⟨response | ⟨r, readiness, w⟩, s'⟩
  · rfl
  · have hreads : (Worker.finish r readiness w).Ensures (inMemory fun _ _ => True) s'.1 fun _ gs' => gs' = s'.1 :=
      ensures_of_reads (Worker.asks_finish r readiness w)
    exact run_keeping (fun _ _ => trivial) hreads

/-- What a request does to a storage in memory. -/
theorem spec (hv : v.config.Unmarking) (s : Generations × τ) : match v.started Generations.perform s with
    | .error _ => (v.after Generations.perform s).1 = s.1
    | .ok (_, readiness, w) => ∃ w₀, Worker.of v.config = .ok w₀ ∧ w.cache = w₀.cache ∧
        (w.table = w₀.table ∨ ∃ m, w.table = w₀.table.addAll m) ∧
        readiness.Leads v.config.cacheName w.Full s.1 (v.after Generations.perform s).1 := by
  rw [after_fst]
  have hstart : (Worker.start v.config v.request).run.Ensures (inMemory fun _ _ => True) s.1 _ :=
    Worker.ensures_start hv v.request s.1
  exact run_keeping (fun _ _ => trivial) hstart

end Visit
end EdgeWorker
