import EdgeWorker.Proofs.Cache.Persistent
import EdgeWorker.Proofs.Worker.Visit

/-!
Requests to a configuration whose generation is marked. They leave the storage as it is, be it in memory or in a store of
single values (`course_eq_of_marked`): the mark is looked for before templates are put and before the worker is
installed, and everything else only reads.

* `untouched st g` — the law of surroundings in which the mark of `g` is found, as long as the storage is `st`;
* `ensures_loadOrLog_of_marked`, `ensures_prepare_of_marked` — the two steps that would write otherwise.
-/

namespace EdgeWorker

open EdgeWorker.Action EdgeWorker.Host EdgeWorker.Cache

variable {κ τ α : Type} {st : κ} {g : String}

namespace Host

/-! ### Surroundings in which a mark is found -/

/-- Whoever asks for the mark of a generation is told that it is there. -/
def Finds (g : String) : (q : Question) → Answer q → Prop
  | .store (.get h url), a => h = g → url = readyMarker → ∃ e, a = .ok (some e)
  | _, _ => True

/-- As long as a storage is `st`, questions that change nothing leave it so, and the mark of `g` is found. -/
def untouched (st : κ) (g : String) : Law Answer κ := fun k q a k' => k = st → q.Reads → k' = st ∧ Finds g q a

theorem ensures_untouched {m : Job α} (h : Asks Question.Reads m) :
    m.Ensures (untouched st g) st fun _ k => k = st :=
  (h.runs.ensures fun _ hq _ _ ha => (ha rfl hq).1).mono fun _ _ => And.right

theorem keeping_untouched {perform : κ → (op : Operation) → op.Answer × κ} {handle : Handler τ}
    (hget : ∀ g url, (perform st (.get g url)).2 = st)
    (hmark : ∀ t, ∃ e, (keeping perform handle (.store (.get g readyMarker)) (st, t)).1 = .ok (some e))
    (q : Question) (s : κ × τ) :
    untouched st g s.1 q (keeping perform handle q s).1 (keeping perform handle q s).2.1 := by
  obtain ⟨k, t⟩ := s
  rintro rfl hq
  cases q with
  | store op =>
    cases op with
    | get h url =>
      refine ⟨?_, ?_⟩
      · rcases hr : handle (.store (.get h url)) t with ⟨e | a, t'⟩
        · simp only [keeping, hr]
        · simp only [keeping, hr, hget]
      · rintro rfl rfl
        exact hmark t
    | _ => exact hq.elim
  | _ => exact ⟨rfl, trivial⟩

end Host

namespace Worker

/-! ### A request -/

theorem ensures_isReady_of_marked {c : Current} (hc : c.generation = g) :
    c.isReady.run.Ensures (untouched st g) st fun ready k => ready = .ok true ∧ k = st := by
  refine Host.Ensures.attempt (R := fun found k => (∃ e, found = .ok (some e)) ∧ k = st) ?_ ?_ ?_
  · refine ensures_question.2 fun a k ha => ?_
    obtain ⟨rfl, hfound⟩ := ha rfl trivial
    exact ⟨hfound hc rfl, rfl⟩
  · rintro found k ⟨⟨e, he⟩, rfl⟩
    cases he
    exact ensures_pure.2 ⟨rfl, rfl⟩
  · rintro e k ⟨⟨_, he⟩, -⟩
    cases he

/-- No template is put into a marked generation. -/
theorem ensures_loadOrLog_of_marked {c : Current} (hc : c.generation = g) (t : Route.Table) (source : String) :
    (t.loadOrLog c source).Ensures (untouched st g) st fun _ k => k = st := by
  have hprime (paths : List String) :
      (Route.Table.primeUnlessReady c source paths).Ensures (untouched st g) st fun _ k => k = st := by
    refine Action.Ensures.bind (ensures_isReady_of_marked hc) ?_
    rintro _ _ ⟨rfl, rfl⟩
    exact ensures_untouched (asks_log trivial)
  unfold Route.Table.loadOrLog Route.Table.load
  refine Action.Ensures.bind (R := fun _ k => k = st) ?_ ?_
  · have hmanifest := Route.asks_fetchManifest (P := Question.Reads) (fun _ => trivial) t.scope source
    refine Host.Ensures.attempt (ensures_untouched hmanifest) ?_ fun e k hk => hk
    rintro m _ rfl
    refine ensures_lift.2 ((ensures_untouched (asks_log trivial)).mono ?_)
    rintro _ _ rfl
    exact ensures_lift.2 ((hprime _).mono fun _ _ hk => ensures_pure.2 hk)
  · rintro (e | loaded) _ rfl
    · exact ensures_untouched (Asks.bind (asks_log trivial) fun _ => asks_pure _)
    · exact ensures_pure.2 rfl

/-- A worker whose generation is marked is not installed. -/
theorem ensures_prepare_of_marked {w : Worker} (hw : w.cache.generation = g) :
    w.prepare.Ensures (untouched st g) st fun _ k => k = st := by
  have hresume : w.resume.Ensures (untouched st g) st fun p k => p.1 = .ok true ∧ k = st := by
    unfold resume
    refine Action.Ensures.bind (ensures_isReady_of_marked hw) ?_
    rintro _ _ ⟨rfl, rfl⟩
    refine Action.Ensures.bind (ensures_untouched (asks_enter (fun _ => trivial) w .activated)) ?_
    exact fun w' k hk => ensures_pure.2 ⟨rfl, hk⟩
  unfold prepare
  refine Action.Ensures.bind hresume ?_
  rintro ⟨_, w'⟩ k ⟨rfl, hk⟩
  exact ensures_pure.2 hk

/-- A worker that finds the mark of its generation does nothing but read before it answers. -/
theorem ensures_start_of_marked {c : Config} (hc : c.cacheName = g) (r : Http.Request) :
    (start c r).run.Ensures (untouched st g) st fun _ k => k = st := by
  unfold start
  split
  · exact ensures_pure.2 rfl
  · cases hw : of c with
    | error e =>
      rw [ExceptT.run_mk, bootstrap_of_error hw, pure_bind]
      exact ensures_untouched (Asks.bind (asks_log trivial) fun _ => asks_pure _)
    | ok w =>
      obtain ⟨-, -, hcache, -, -⟩ := of_spec hw
      have hname : w.cache.generation = g := by rw [hcache, ← hc]
      rw [ExceptT.run_mk, bootstrap_eq hw, LawfulMonad.bind_assoc]
      refine Action.Ensures.bind (ensures_loadOrLog_of_marked hname w.table _) ?_
      rintro ⟨n, table⟩ _ rfl
      rw [pure_bind]
      exact Action.Ensures.bind (ensures_prepare_of_marked (w := { w with table }) hname) fun _ _ hk => ensures_pure.2 hk

theorem ensures_serve_of_marked {c : Config} (hc : c.cacheName = g) (r : Http.Request) :
    (serve c r).Ensures (untouched st g) st fun _ k => k = st := by
  rw [serve_eq]
  refine Action.Ensures.bind (ensures_start_of_marked hc r) ?_
  rintro (response | ⟨r, readiness, w⟩) _ rfl
  · exact ensures_pure.2 rfl
  · exact ensures_untouched (asks_finish r readiness w)

end Worker

/-! ### Requests one after another -/

namespace Visit

/-- Where the mark of a generation is found, requests that use this generation leave the storage as it is. -/
theorem course_eq_of_marked (g : String) (st : Storage) (vs : List (Visit τ)) (hvs : ∀ v ∈ vs, v.config.cacheName = g)
    (hmark : ∀ v ∈ vs, ∀ t, ∃ e,
      (keeping Storage.perform v.handle (.store (.get g readyMarker)) (st, t)).1 = .ok (some e)) (t : τ) :
    (course Storage.perform vs (st, t)).1 = st := by
  induction vs generalizing t with
  | nil => rfl
  | cons v vs ih =>
    have hv : (v.after Storage.perform (st, t)).1 = st :=
      Action.Ensures.run (t := (st, t)) (keeping_untouched st.perform_get (hmark v List.mem_cons_self))
        (Worker.ensures_serve_of_marked (hvs v List.mem_cons_self) v.request)
    rw [course_cons]
    generalize v.after Storage.perform (st, t) = s at hv ⊢
    obtain ⟨k, t'⟩ := s
    obtain rfl : k = st := hv
    exact ih (fun u hu => hvs u (List.mem_cons_of_mem _ hu)) (fun u hu => hmark u (List.mem_cons_of_mem _ hu)) t'

/-- A key-value store that holds the mark of a generation, and nothing else. -/
def markedStore : Storage :=
  .keyValue { Store.empty with
    values := .ofList [(Persistent.entryKey "cs-htmx" readyMarker, Text.utf8 (Entry.of 204 [] .epoch).json)] }

/-- Two requests in surroundings in which there is something to be had for every address. -/
def visits : List (Visit Unit) :=
  let v : Visit Unit := ⟨Worker.lone, Worker.rootRequest, Template.serving fun _ => .ok (.plain .ok [])⟩
  [v, v]

theorem course_eq_of_marked_store : (∀ v ∈ visits, v.config.cacheName = "cs-htmx") ∧
    (Storage.perform markedStore (.get "cs-htmx" readyMarker)).1 = .ok (some (.of 204 [] .epoch)) ∧
    (course Storage.perform visits (markedStore, ())).1 = markedStore := by
  have hfound : (Storage.perform markedStore (.get "cs-htmx" readyMarker)).1 = .ok (some (.of 204 [] .epoch)) := by
    decide +kernel
  have hvisits : ∀ v ∈ visits, v = ⟨Worker.lone, Worker.rootRequest, Template.serving fun _ => .ok (.plain .ok [])⟩ := by
    simp [visits]
  have hname : ∀ v ∈ visits, v.config.cacheName = "cs-htmx" := fun v hv => by rw [hvisits v hv]; rfl
  refine ⟨hname, hfound, course_eq_of_marked "cs-htmx" markedStore visits hname (fun v hv t => ?_) ()⟩
  rw [hvisits v hv]
  exact ⟨_, hfound⟩

end Visit
end EdgeWorker
