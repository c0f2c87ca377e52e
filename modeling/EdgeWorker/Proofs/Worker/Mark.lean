import EdgeWorker.Proofs.Cache.Collision
import EdgeWorker.Proofs.Worker.Lifecycle
import EdgeWorker.Proofs.Worker.Unrouted

/-!
How far the mark of a complete generation is from being an address (`mark_reach`). The paths and the targets that name
it do lead to its key: a generation is marked by filling it with such a path (`isReady_of_add`), and a request for such a
target is answered with the entry of the mark. No other path marks a generation, and no other request asks for that entry.
-/

namespace EdgeWorker.Worker

open EdgeWorker.Action EdgeWorker.Host EdgeWorker.Cache EdgeWorker.Http EdgeWorker.Template

variable {τ : Type} {handle : Handler τ} {names : String → Prop} {st : Storage} {gs : Generations} {t : τ}
  {w : Worker} {r : Request} {e : Entry} {response : Response}

/-- A request whose target does not name the mark does not ask for its entry. -/
theorem asks_unmarked (hs : w.scope.base.authority.isSome) (hr : ¬ w.isRouted r) (hn : ¬ namesMark r.target.text) :
    Asks (fun q => ∀ g, q ≠ .store (.get g readyMarker)) (w.answer r) := by
  refine (asks_unrouted hr).mono fun q hq g => ?_
  rintro rfl
  obtain ⟨-, url, hurl, hop⟩ := hq
  injection hop with _ hkey
  exact hn ((Scope.exists_resolve_marker hs).1 ⟨url, hurl, hkey.symm⟩)

/-- A request whose target names the mark is answered with its entry. -/
theorem run_answer_marked (hw : Willing handle) (hphase : w.phase.serves) (hr : ¬ w.isRouted r) (hc : isCacheable r)
    (hn : namesMark r.target.text) (hserves : st.Serves names gs) (hg : names w.cache.generation)
    (he : st.entryAt? w.cache.generation readyMarker = some e) (hresponse : e.response = .ok response) :
    ((w.answer r).run (keeping Storage.perform handle) (st, t)).1.1 = .ok response := by
  have hstored : w.storedFor (gs.entryAt? w.cache.generation) r = some response := by
    obtain ⟨f, hurl⟩ := w.scope.resolve_of_namesMark hn
    unfold storedFor
    rw [hc, hurl]
    show (gs.entryAt? w.cache.generation readyMarker).bind _ = _
    rw [← hserves.entryAt?_eq hg, he, Option.bind_some, hresponse]
    rfl
  have hunrouted : (w.answer r).Ensures (looking _ (gs.entryAt? w.cache.generation) fun _ _ => True) [] _ :=
    ensures_unrouted hphase hr _ []
  have hrun := run_looking hunrouted (w.asks_answer r) st.perform_get (hserves.get hg) hw (fun _ _ => trivial) t
  rw [hstored] at hrun
  exact hrun.2.1

/-- What a job makes of the marks of generations in memory it makes of those of a storage that answers as they do. -/
theorem isMarked_run {ε α : Type} {x : Attempt ε α} (hx : Asks (Question.Names names) x.run)
    (hserves : st.Serves names gs) {M : String → Except ε α → Prop}
    (h : x.run.Ensures (Host.inMemory fun _ _ => True) gs fun r gs' => ∀ g, gs'.IsMarked g ↔ gs.IsMarked g ∨ M g r)
    (t : τ) {g : String} (hg : names g) : (x.run.run (keeping Storage.perform handle) (st, t)).2.1.IsMarked g ↔
      st.IsMarked g ∨ M g (x.run.run (keeping Storage.perform handle) (st, t)).1 := by
  have hagrees : Agrees names handle x.run st gs t := agrees_of_asks hx hserves
  obtain ⟨r, st', gs', t', hst, hgs, hserves'⟩ := hagrees
  have hrun : ∀ g, (x.run.run (keeping Generations.perform handle) (gs, t)).2.1.IsMarked g ↔ gs.IsMarked g ∨
      M g (x.run.run (keeping Generations.perform handle) (gs, t)).1 := run_keeping (s := (gs, t)) (fun _ _ => trivial) h
  rw [hgs] at hrun
  rw [hst, hserves'.isMarked_iff hg, hserves.isMarked_iff hg]
  exact hrun g

/-- In every scope just the texts that name the mark lead to its key. Whatever the network answers and the storage
refuses, be it one in memory or over a store of single values: a generation is marked by an installation or an addition
exactly if this succeeds and a path of it names the mark. A request that does not go by the routes never asks for the
entry of the mark if its target does not name it; and if it does, an active worker answers with the entry. -/
theorem mark_reach {origin basePath : String} {s : Scope} (hs : Scope.of origin basePath = .ok s) :
    (∀ text, (∃ url, s.resolve text = .ok url ∧ cacheKey url = readyMarker) ↔ namesMark text) ∧
    (∀ (τ : Type) (handle : Handler τ) (names : String → Prop) (st : Storage) (gs : Generations) (t : τ) (c : Current),
      c.scope = s → st.Serves names gs → names c.generation →
      (∀ m g, names g → (((c.install m).run.run (keeping Storage.perform handle) (st, t)).2.1.IsMarked g ↔
        st.IsMarked g ∨ g = c.generation ∧
          ((c.install m).run.run (keeping Storage.perform handle) (st, t)).1.isOk ∧ ∃ path ∈ m.paths, namesMark path)) ∧
      ∀ path g, names g → (((c.add path).run.run (keeping Storage.perform handle) (st, t)).2.1.IsMarked g ↔
        st.IsMarked g ∨ g = c.generation ∧
          ((c.add path).run.run (keeping Storage.perform handle) (st, t)).1.isOk ∧ namesMark path)) ∧
    ∀ (τ : Type) (handle : Handler τ) (w : Worker) (r : Request), w.scope = s → ¬ w.isRouted r →
      (¬ namesMark r.target.text → ∀ t, ∀ x ∈ (w.answer r).exchanges handle t, ∀ g, x.1 ≠ .store (.get g readyMarker)) ∧
      (namesMark r.target.text → w.phase.serves → isCacheable r → Willing handle →
        ∀ (names : String → Prop) (st : Storage) (gs : Generations) (t : τ) e response,
        st.Serves names gs → names w.cache.generation → st.entryAt? w.cache.generation readyMarker = some e →
        e.response = .ok response → ((w.answer r).run (keeping Storage.perform handle) (st, t)).1.1 = .ok response) := by
  have hauthority := Scope.authority_of hs
  refine ⟨fun text => Scope.exists_resolve_marker hauthority, ?_, ?_⟩
  · rintro τ handle names st gs t c rfl hserves hc
    constructor
    · intro m g hg
      exact isMarked_run (Current.names_install hc m) hserves (c.ensures_install_marks hauthority m gs) t hg
    · intro path g hg
      exact isMarked_run (Current.names_add hc path) hserves (c.ensures_add_marks hauthority path gs) t hg
  · rintro τ handle w r rfl hr
    refine ⟨fun hn t => ?_, fun hn hphase hc hw names st gs t e response hserves hg => ?_⟩
    · exact (asks_unmarked hauthority hr hn).runs.exchanges (ends_run handle _ t)
    · exact run_answer_marked hw hphase hr hc hn hserves hg

/-- A path below the root leads to another key than the mark, and the mark with a fragment to this one. -/
theorem mark_reach_of_root : Scope.of "https://e.c" "/" = .ok rootCache.scope ∧
    (¬ ∃ url, rootCache.scope.resolve "/hx:ready" = .ok url ∧ cacheKey url = readyMarker) ∧
    ∃ url, rootCache.scope.resolve " HX:ready#top" = .ok url ∧ cacheKey url = readyMarker := by
  have hs : Scope.of "https://e.c" "/" = .ok rootCache.scope := by decide +kernel
  exact ⟨hs, mt ((mark_reach hs).1 _).1 (by decide +kernel), ((mark_reach hs).1 _).2 (by decide +kernel)⟩

/-! ### A path that is the mark -/

def markRequest : Request := ⟨.get, ⟨none, readyMarker, "", none⟩, Keyed.empty, []⟩

/-- A network that has an empty page at every address. -/
def blank : Handler Unit := serving fun _ => .ok emptyResponse

/-- The answer of an active worker to the request for the mark, once its generation is marked. -/
def answerToMark : Except Error Response :=
  ((do let _ ← ofLone.cache.markReady.run; { ofLone with phase := .activated }.answer markRequest).run
    (keeping Generations.perform blank) (Generations.empty, ())).1.1

/-- A generation that nobody has marked counts as complete once the path of the mark was added to it; and a request for
this path is answered with the entry of the mark, which the network has another answer to. -/
theorem isReady_of_add : Scope.of "https://e.c" "/" = .ok rootCache.scope ∧
    (rootCache.scope.resolve readyMarker).map cacheKey = .ok readyMarker ∧
    (rootCache.isReady.run.run (keeping Generations.perform blank) (Generations.empty, ())).1 = .ok false ∧
    ((rootCache.add readyMarker >>= fun _ => rootCache.isReady).run.run (keeping Generations.perform blank)
      (Generations.empty, ())).1 = .ok true ∧
    Target.ofText readyMarker = .ok markRequest.target ∧ answerToMark = .ok (.plain .noContent []) := by
  decide +kernel

end EdgeWorker.Worker
