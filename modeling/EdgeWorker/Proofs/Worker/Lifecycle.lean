import EdgeWorker.Proofs.Cache.Current
import EdgeWorker.Proofs.Worker.Answer
import Mathlib.Data.List.Infix

/-!
The phases of a worker that is told events in any order, in any surroundings.

* `Event.phaseAfter` — the phase that an event leads to, as it succeeds or fails (`yields_handle`);
* `after`, `Succeeds`, `Installed` — where events lead to, and whether the worker is installed then;
* `activated_iff` — a worker is active if an activation was the last thing that happened to it, and succeeded. What
  was before plays no part in it; so a worker that was never installed is active too (`activated_of_failed_install`).
* `asks_handle` — nothing else marks a generation, unless the mark is among the resources (`InstallsMark`).
-/

namespace EdgeWorker.Worker

open EdgeWorker.Action EdgeWorker.Host EdgeWorker.Cache EdgeWorker.Template

variable {σ : Type} {handle : Handler σ} {w w' : Worker} {p : Worker × σ} {es before rest : List Event} {e : Event}

/-! ### One event -/

theorem yields_enter (w : Worker) (phase : Phase) : Yields (· = { w with phase }) (w.enter phase) :=
  yields_bind fun _ => yields_pure rfl

theorem yields_install (w : Worker) : Yields (fun p => (∃ n, p = (.ok n, { w with phase := .installed })) ∨
    ∃ e, p = (.error e, { w with phase := .redundant })) w.install := by
  unfold install
  refine (w.yields_enter .installing).bind ?_
  rintro _ rfl
  refine yields_bind fun result => ?_
  cases result with
  | ok count => exact (yields_enter _ _).bind fun w' hw' => yields_pure (.inl ⟨count, by rw [hw']⟩)
  | error x => exact yields_bind fun _ => (yields_enter _ _).bind fun w' hw' => yields_pure (.inr ⟨.cache x, by rw [hw']⟩)

theorem yields_activate (w : Worker) : Yields (fun p => (∃ names, p = (.ok names, { w with phase := .activated })) ∨
    ∃ e, p = (.error e, { w with phase := .activating })) w.activate := by
  unfold activate
  refine (w.yields_enter .activating).bind ?_
  rintro _ rfl
  refine yields_bind fun result => ?_
  cases result with
  | ok names => exact (yields_enter _ _).bind fun w' hw' => yields_pure (.inl ⟨names, by rw [hw']⟩)
  | error x => exact yields_pure (.inr ⟨_, rfl⟩)

/-- The phase that an event leads to, as it succeeds or fails. -/
def Event.phaseAfter (phase : Phase) (succeeded : Bool) : Event → Phase
  | .install => if succeeded then .installed else .redundant
  | .activate => if succeeded then .activated else .activating
  | .fetch _ => phase

theorem yields_handle (w : Worker) (e : Event) :
    Yields (fun p => p.2.phase = e.phaseAfter w.phase p.1.isOk) (w.handle e) := by
  cases e with
  | install =>
    refine w.yields_install.bind ?_
    rintro _ (⟨n, rfl⟩ | ⟨x, rfl⟩) <;> exact yields_pure rfl
  | activate =>
    refine w.yields_activate.bind ?_
    rintro _ (⟨names, rfl⟩ | ⟨x, rfl⟩) <;> exact yields_pure rfl
  | fetch r =>
    refine (w.yields_answer r).bind ?_
    rintro _ ⟨engine, -, h⟩
    exact yields_pure (by rw [h]; rfl)

/-- An event loads templates and leads to a phase, and leaves the rest of the worker as it is. -/
theorem yields_handle_kept (w : Worker) (e : Event) :
    Yields (fun p => p.2.table = w.table ∧ p.2.cache = w.cache) (w.handle e) := by
  cases e with
  | install =>
    refine w.yields_install.bind ?_
    rintro _ (⟨n, rfl⟩ | ⟨x, rfl⟩) <;> exact yields_pure ⟨rfl, rfl⟩
  | activate =>
    refine w.yields_activate.bind ?_
    rintro _ (⟨names, rfl⟩ | ⟨x, rfl⟩) <;> exact yields_pure ⟨rfl, rfl⟩
  | fetch r =>
    refine (w.yields_answer r).bind ?_
    rintro ⟨response, _⟩ ⟨engine, hengine, rfl⟩
    exact yields_pure ⟨rfl, hengine⟩

/-! ### What marks a generation -/

theorem runs_enter {P : Question → Prop} (hP : ∀ record, P (.log record)) (w : Worker) (phase : Phase) :
    (w.enter phase).Runs P (· = { w with phase }) := (asks_log (hP _)).runs_bind fun _ => runs_pure rfl

theorem asks_enter {P : Question → Prop} (hP : ∀ record, P (.log record)) (w : Worker) (phase : Phase) :
    Asks P (w.enter phase) := asks_of_runs (runs_enter hP w phase)

/-- An installation asks what filling the generation asks, and to log. -/
theorem asks_install {P : Question → Prop} (hlog : ∀ record, P (.log record)) (w : Worker)
    (hfill : Asks P (w.cache.install w.table.manifest).run) : Asks P w.install := by
  unfold install
  refine asks_bind_of_runs (runs_enter hlog w .installing) ?_
  rintro _ rfl
  refine hfill.bind fun result => ?_
  cases result with
  | ok count => exact (asks_enter hlog _ _).bind fun _ => asks_pure _
  | error x => exact Asks.bind (asks_log (hlog _)) fun _ => (asks_enter hlog _ _).bind fun _ => asks_pure _

/-- One of the resources that the worker installs is kept under the address of the mark. -/
def InstallsMark (w : Worker) : Prop := ∃ path ∈ w.table.manifest.paths, w.cache.scope.LeadsTo path readyMarker

/-- No event but an activation marks a generation, unless the mark is among the resources that are installed. -/
theorem asks_handle (w : Worker) (he : e ≠ .activate) :
    Asks (fun q => q.Marks → e = .install ∧ w.InstallsMark) (w.handle e) := by
  cases e with
  | install =>
    refine (w.asks_install (fun _ => False.elim) ?_).bind fun _ => asks_pure _
    refine Current.asks_install (fun _ => False.elim) False.elim (fun _ => False.elim) False.elim _ ?_
    -- what is put under the address of the mark is that of some path
    intro entries hentries hmarks
    obtain ⟨stored, hstored, hkey⟩ := List.mem_map.1 hmarks
    obtain ⟨path, hpath, hleads⟩ := hentries stored hstored
    exact ⟨rfl, path, hpath, hkey ▸ hleads⟩
  | activate => exact absurd rfl he
  | fetch r =>
    refine ((w.asks_answer r).mono fun q hq => ?_).bind fun _ => asks_pure _
    cases q with
    | store op =>
      cases op with
      | get g url => exact False.elim
      | _ => exact hq.elim
    | _ => exact False.elim

/-! ### Events in any order -/

def after (handle : Handler σ) (p : Worker × σ) (es : List Event) : Worker × σ :=
  es.foldl (fun p e => (((p.1.handle e).run handle p.2).1.2, ((p.1.handle e).run handle p.2).2)) p

/-- The event would succeed. -/
def Succeeds (handle : Handler σ) (p : Worker × σ) (e : Event) : Prop := ((p.1.handle e).run handle p.2).1.1.isOk

/-- Some installation succeeded, and none after it failed. -/
def Installed (handle : Handler σ) (p : Worker × σ) (es : List Event) : Prop :=
  ∃ before rest, es = before ++ .install :: rest ∧ Succeeds handle (after handle p before) .install ∧
    ∀ mid more, rest = mid ++ .install :: more → Succeeds handle (after handle p (before ++ .install :: mid)) .install

theorem after_nil (handle : Handler σ) (p : Worker × σ) : after handle p [] = p := rfl

theorem after_concat (es : List Event) (e : Event) :
    after handle p (es ++ [e]) = ((((after handle p es).1.handle e).run handle (after handle p es).2).1.2,
      (((after handle p es).1.handle e).run handle (after handle p es).2).2) := by
  unfold after
  rw [List.foldl_append]
  rfl

/-- The phase after one more event. -/
theorem phase_after_concat (es : List Event) (e : Event) : (after handle p (es ++ [e])).1.phase =
    e.phaseAfter (after handle p es).1.phase (((after handle p es).1.handle e).run handle (after handle p es).2).1.1.isOk := by
  rw [after_concat]
  exact (yields_handle _ e).runs.result handle _

/-- Events leave the table of routes and the cache of a worker as they are. -/
theorem kept_after (handle : Handler σ) (p : Worker × σ) (es : List Event) :
    (after handle p es).1.table = p.1.table ∧ (after handle p es).1.cache = p.1.cache := by
  induction es using List.reverseRecOn with
  | nil => exact ⟨rfl, rfl⟩
  | append_singleton es e ih =>
    obtain ⟨htable, hcache⟩ := ih
    rw [after_concat]
    have hkept := (yields_handle_kept (after handle p es).1 e).runs.result handle (after handle p es).2
    exact ⟨hkept.1.trans htable, hkept.2.trans hcache⟩

theorem installed_concat_install : Installed handle p (es ++ [.install]) ↔ Succeeds handle (after handle p es) .install := by
  constructor
  · rintro ⟨before, rest, hes, hfirst, hlater⟩
    rcases List.eq_nil_or_concat' rest with rfl | ⟨mid, e, rfl⟩
    · obtain ⟨rfl, -⟩ := List.append_inj' hes rfl
      exact hfirst
    · rw [← List.cons_append, ← List.append_assoc] at hes
      obtain ⟨rfl, he⟩ := List.append_inj' hes rfl
      cases he
      exact hlater mid [] rfl
  · exact fun h => ⟨es, [], rfl, h, fun mid more he => by simp at he⟩

theorem installed_concat_of_ne (he : e ≠ .install) : Installed handle p (es ++ [e]) ↔ Installed handle p es := by
  constructor
  · rintro ⟨before, rest, hes, hfirst, hlater⟩
    rcases List.eq_nil_or_concat' rest with rfl | ⟨mid, e', rfl⟩
    · obtain ⟨-, hlast⟩ := List.append_inj' hes rfl
      cases hlast
      exact absurd rfl he
    · rw [← List.cons_append, ← List.append_assoc] at hes
      obtain ⟨rfl, -⟩ := List.append_inj' hes rfl
      exact ⟨before, mid, rfl, hfirst, fun mid' more hm => hlater mid' (more ++ [e']) (by rw [hm]; simp)⟩
  · rintro ⟨before, rest, rfl, hfirst, hlater⟩
    refine ⟨before, rest ++ [e], by simp, hfirst, fun mid more hm => ?_⟩
    rcases List.eq_nil_or_concat' more with rfl | ⟨more, e', rfl⟩
    · obtain ⟨-, hlast⟩ := List.append_inj' hm rfl
      cases hlast
      exact absurd rfl he
    · rw [← List.cons_append, ← List.append_assoc] at hm
      obtain ⟨rfl, -⟩ := List.append_inj' hm rfl
      exact hlater mid more rfl

theorem Installed.append (h : Installed handle p before) (hrest : ∀ e ∈ rest, e ≠ .install) :
    Installed handle p (before ++ rest) := by
  induction rest using List.reverseRecOn with
  | nil => rwa [List.append_nil]
  | append_singleton rest e ih =>
    rw [← List.append_assoc, installed_concat_of_ne (hrest e (List.mem_append_right _ List.mem_cons_self))]
    exact ih fun x hx => hrest x (List.mem_append_left _ hx)

/-! ### Active workers -/

theorem Event.phaseAfter_eq_activated {phase : Phase} {succeeded : Bool} :
    e.phaseAfter phase succeeded = .activated ↔
      e = .activate ∧ succeeded ∨ (∃ r, e = .fetch r) ∧ phase = .activated := by
  cases e <;> cases succeeded <;> simp [phaseAfter]

/-- The last activation behind which there are only requests, with one more event. -/
theorem exists_activate_concat {R : List Event → Prop} :
    (∃ before rest, es ++ [e] = before ++ .activate :: rest ∧ R before ∧ ∀ x ∈ rest, ∃ r, x = .fetch r) ↔
      e = .activate ∧ R es ∨ (∃ r, e = .fetch r) ∧
        ∃ before rest, es = before ++ .activate :: rest ∧ R before ∧ ∀ x ∈ rest, ∃ r, x = .fetch r := by
  constructor
  · rintro ⟨before, rest, h, hbefore, hrest⟩
    rcases List.eq_nil_or_concat' rest with rfl | ⟨rest, x, rfl⟩
    · obtain ⟨rfl, he⟩ := List.append_inj' h rfl
      exact .inl ⟨List.singleton_inj.1 he, hbefore⟩
    · rw [← List.cons_append, ← List.append_assoc] at h
      obtain ⟨rfl, he⟩ := List.append_inj' h rfl
      cases he
      exact .inr ⟨hrest _ (by simp), before, rest, rfl, hbefore, fun x hx => hrest x (List.mem_append_left _ hx)⟩
  · rintro (⟨rfl, hes⟩ | ⟨hfetch, before, rest, rfl, hbefore, hrest⟩)
    · exact ⟨es, [], rfl, hes, List.forall_mem_nil _⟩
    · refine ⟨before, rest ++ [e], by simp, hbefore, fun x hx => ?_⟩
      rcases List.mem_append.1 hx with hx | hx
      · exact hrest x hx
      · exact List.mem_singleton.1 hx ▸ hfetch

/-- A worker is active if an activation was the last thing that happened to it, and succeeded. -/
theorem activated_iff (handle : Handler σ) (hp : p.1.phase ≠ .activated) (es : List Event) :
    (after handle p es).1.phase = .activated ↔ ∃ before rest, es = before ++ .activate :: rest ∧
      Succeeds handle (after handle p before) .activate ∧ ∀ e ∈ rest, ∃ r, e = .fetch r := by
  induction es using List.reverseRecOn with
  | nil => exact ⟨fun h => absurd h hp, fun ⟨before, rest, h, _⟩ => by simp at h⟩
  | append_singleton es e ih =>
    rw [phase_after_concat, Event.phaseAfter_eq_activated, ih, exists_activate_concat]
    refine or_congr_left (and_congr_right fun he => ?_)
    subst he
    exact Iff.rfl

/-- What an active worker can be relied on for. It is active if an activation was the last thing that happened to it
and succeeded; it has always been installed by then exactly if no activation succeeded before an installation did; and
nothing but an activation marks a generation, or an installation with the mark among its resources. -/
theorem lifecycle_spec (handle : Handler σ) (hw : w.phase = .parsed) (s : σ) (es : List Event) :
    ((after handle (w, s) es).1.phase = .activated ↔ ∃ before rest, es = before ++ .activate :: rest ∧
      Succeeds handle (after handle (w, s) before) .activate ∧ ∀ e ∈ rest, ∃ r, e = .fetch r) ∧
    ((∀ before, before <+: es → (after handle (w, s) before).1.phase = .activated → Installed handle (w, s) before) ↔
      ∀ before, before ++ [.activate] <+: es → Succeeds handle (after handle (w, s) before) .activate →
        Installed handle (w, s) before) ∧
    ∀ before e rest, es = before ++ e :: rest → e ≠ .activate →
      ∀ x ∈ ((after handle (w, s) before).1.handle e).exchanges handle (after handle (w, s) before).2,
        x.1.Marks → e = .install ∧ w.InstallsMark := by
  have hp : (w, s).1.phase ≠ .activated := by simp [hw]
  have hne : Event.activate ≠ .install := nofun
  refine ⟨activated_iff handle hp es, ⟨fun h before hbefore hsucceeds => ?_, fun h before hbefore hactive => ?_⟩, ?_⟩
  · have hactive := (activated_iff handle hp (before ++ [.activate])).2 ⟨before, [], rfl, hsucceeds, List.forall_mem_nil _⟩
    exact (installed_concat_of_ne hne).1 (h _ hbefore hactive)
  · -- it was installed at its last activation, and there were only requests since
    obtain ⟨first, rest, rfl, hsucceeds, hrest⟩ := (activated_iff handle hp before).1 hactive
    have hfirst := h first (List.IsPrefix.trans ⟨rest, by simp⟩ hbefore) hsucceeds
    refine hfirst.append fun e he => ?_
    rcases List.mem_cons.1 he with rfl | he
    · exact hne
    · obtain ⟨r, rfl⟩ := hrest e he
      nofun
  · rintro before e rest - he x hx hmarks
    obtain ⟨hinstall, path, hpath, hleads⟩ := (asks_handle _ he).runs.exchanges (ends_run handle _ _) x hx hmarks
    obtain ⟨htable, hcache⟩ := kept_after handle (w, s) before
    rw [htable] at hpath
    rw [hcache] at hleads
    exact ⟨hinstall, path, hpath, hleads⟩

/-! ### An activation behind a failed installation -/

def lone : Config := { origin := "https://e.c", templateDir := "/t", routesFile := "/r", staticAssets := ["/a"] }

def ofLone : Worker where
  config := lone
  table := .empty rootCache.scope "/t" ⟨["/a"]⟩
  engine := .of ⟨rootCache.scope, "cs-htmx"⟩ "templates"
  phase := .parsed

theorem of_lone : of lone = .ok ofLone := by
  have htable : Route.Table.ofConfig lone = .ok ofLone.table := by decide +kernel
  unfold of
  rw [htable]
  rfl

def silent : Handler (Generations × Unit) := keeping Generations.perform (serving fun _ => .error (.transport "silent"))

/-- A worker that was told to activate after its installation had failed is active, and its generation is marked. -/
theorem activated_of_failed_install :
    of lone = .ok ofLone ∧ ¬ Generations.IsMarked Generations.empty ofLone.cache.generation ∧
    ¬ Succeeds silent (ofLone, Generations.empty, ()) .install ∧
    (after silent (ofLone, Generations.empty, ()) [.install, .activate]).1.phase = .activated ∧
    ¬ Installed silent (ofLone, Generations.empty, ()) [.install, .activate] ∧
    Generations.IsMarked (after silent (ofLone, Generations.empty, ()) [.install, .activate]).2.1
      ofLone.cache.generation := by
  have hfails : ¬ Succeeds silent (ofLone, Generations.empty, ()) .install := by
    unfold Succeeds
    decide +kernel
  have hinstalled : ¬ Installed silent (ofLone, Generations.empty, ()) ([] ++ [.install] ++ [.activate]) := by
    rw [installed_concat_of_ne (nofun : Event.activate ≠ .install), installed_concat_install, after_nil]
    exact hfails
  exact ⟨of_lone, by decide +kernel, hfails, by decide +kernel, hinstalled, by decide +kernel⟩

def rootRequest : Http.Request := ⟨.get, ⟨none, "", "/", none⟩, Keyed.empty, []⟩

/-- The same worker is still active behind a request. -/
theorem lifecycle_spec_of_failed_install : ofLone.phase = .parsed ∧
    (after silent (ofLone, Generations.empty, ()) [.install, .activate, .fetch rootRequest]).1.phase = .activated := by
  refine ⟨rfl, ?_⟩
  have hactivate : Succeeds silent (after silent (ofLone, Generations.empty, ()) [.install]) .activate := by
    unfold Succeeds
    decide +kernel
  exact (lifecycle_spec silent rfl _ _).1.2 ⟨[.install], [.fetch rootRequest], rfl, hactivate, by simp⟩

end EdgeWorker.Worker
