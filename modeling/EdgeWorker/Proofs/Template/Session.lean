import EdgeWorker.Proofs.Template.Call

/-!
Calls of one engine that take turns.

* `Session` — an engine with the calls that were made of it, each with the load it has come to. Between two turns of a
  load any other calls may be made and any other loads may take turns;
* `Session.Over` — the invariant: the engine is one over its site, and every load pursues the verdict on its path;
* `Session.Over.run`, `Session.Over.run_done` — what moves in any order keep, and when they let a load come to its end.
-/

namespace EdgeWorker.Template

open EdgeWorker.Host

/-- An engine, the paths and loads of the calls that were made of it, and the state of its surroundings. -/
structure Session (σ : Type) where
  engine : Engine
  loads : List (String × Load)
  surroundings : σ

namespace Session

/-- What may happen next in a session: a call is made, or a load gets its answer and goes on to its next question. -/
inductive Move where
  | call (path : String)
  | turn (i : Nat)
  deriving DecidableEq

variable {σ : Type} {handle : Handler σ} {site : Site} {S : Session σ} {i k : Nat} {path : String}
  {load : Load} {outcome : Except Error Unit}

def of (e : Engine) (s : σ) : Session σ := ⟨e, [], s⟩

def move (handle : Handler σ) (S : Session σ) : Move → Session σ
  | .call path => { S with loads := S.loads ++ [(path, Load.begin S.engine.library path)] }
  | .turn i =>
    match S.loads[i]? with
    | none => S
    | some (path, load) =>
      let (e, load, s) := S.engine.turn handle load S.surroundings
      ⟨e, S.loads.set i (path, load), s⟩

def run (handle : Handler σ) (S : Session σ) (moves : List Move) : Session σ :=
  moves.foldl (Session.move handle) S

/-! ### What moves keep -/

/-- An engine over a site, all of whose loads pursue the verdict on their path. -/
structure Over (handle : Handler σ) (site : Site) (S : Session σ) : Prop where
  engine : S.engine.Over handle site
  loads : ∀ p ∈ S.loads, Pursues site p.1 S.engine.library p.2

theorem Over.move (h : S.Over handle site) (m : Move) : (S.move handle m).Over handle site := by
  cases m with
  | call path =>
    refine ⟨h.engine, fun p hp => ?_⟩
    rcases List.mem_append.1 hp with hp | hp
    · exact h.loads p hp
    · cases List.mem_singleton.1 hp
      exact begin_pursues h.engine.built path
  | turn i =>
    simp only [Session.move]
    split
    · exact h
    · rename_i path load hi
      have hp := h.loads _ (List.mem_of_getElem? hi)
      have hk := h.engine.turn_kept hp S.surroundings
      refine ⟨h.engine.turn hp S.surroundings, fun q hq => ?_⟩
      rcases List.mem_or_eq_of_mem_set hq with hq | rfl
      · exact (h.loads q hq).mono hk.grown.loaded hk.grown.compiled
      · exact h.engine.turn_pursues hp S.surroundings

theorem Over.run (h : S.Over handle site) (moves : List Move) : (S.run handle moves).Over handle site := by
  induction moves generalizing S with
  | nil => exact h
  | cons m moves ih => exact ih (h.move m)

/-! ### How loads come to their end -/

theorem getElem?_move_turn (handle : Handler σ) (hi : S.loads[i]? = some (path, load)) :
    (S.move handle (.turn i)).loads[i]? = some (path, (S.engine.turn handle load S.surroundings).2.1) := by
  have hlt : i < S.loads.length := (List.getElem?_eq_some_iff.1 hi).1
  simp only [move, hi, List.getElem?_set_self hlt]

/-- A move leaves a load alone unless it is its turn. -/
theorem getElem?_move_of_ne {m : Move} (hi : S.loads[i]? = some (path, load)) (hm : m ≠ .turn i) :
    (S.move handle m).loads[i]? = some (path, load) := by
  have hlt : i < S.loads.length := (List.getElem?_eq_some_iff.1 hi).1
  cases m with
  | call p => simp only [move, List.getElem?_append_left hlt, hi]
  | turn j =>
    simp only [move]
    split
    · exact hi
    · have hj : j ≠ i := fun h => hm (h ▸ rfl)
      rw [List.getElem?_set_ne hj, hi]

/-- A load that gets as many turns as it needs answers comes to its end, whatever happens between them. -/
theorem Over.run_done (h : S.Over handle site) (hi : S.loads[i]? = some (path, load))
    (hc : Concludes site k load outcome) {moves : List Move} (hk : k ≤ moves.count (.turn i)) :
    (S.run handle moves).loads[i]? = some (path, .done outcome) := by
  induction moves generalizing S load k with
  | nil =>
    rw [List.count_nil] at hk
    obtain rfl := hc.eq_done (Nat.le_zero.1 hk)
    exact hi
  | cons m moves ih =>
    by_cases hm : m = .turn i
    · subst hm
      have hi' := getElem?_move_turn handle hi
      rw [List.count_cons_self] at hk
      rcases load.waiting_or_done with hw | ⟨outcome', rfl⟩
      · obtain ⟨j, hj, hnext⟩ :=
          h.engine.turn_concludes (h.loads _ (List.mem_of_getElem? hi)) hw hc S.surroundings
        exact ih (h.move _) hi' hnext (by omega)
      · rw [Engine.turn_load] at hi'
        obtain ⟨rfl, rfl⟩ := concludes_done.1 hc
        exact ih (h.move _) hi' .done (Nat.zero_le _)
    · rw [List.count_cons_of_ne hm] at hk
      exact ih (h.move m) (getElem?_move_of_ne hi hm) hc hk

/-! ### Taking turns changes no outcome -/

theorem over_of (h : Steady handle) (cache : Cache.Current) (partialDir : String) (s : σ) :
    (Session.of (.of cache partialDir) s).Over handle ((Engine.of cache partialDir).site handle s) :=
  ⟨Engine.over_of h cache partialDir s, fun p hp => by cases hp⟩

/-- **Taking turns changes no outcome.** Over a fresh engine in steady surroundings, a call that ends among others has
the outcome that it has alone, in whatever order calls were made and took turns; and a call that ends alone ends in
the same way among any others, after a number of its own turns that does not depend on them. -/
theorem outcome_eq_alone (h : Steady handle) (cache : Cache.Current) (partialDir : String) (s s' : σ) (path : String)
    (outcome : Except Error Unit) :
    (∀ moves, ∀ i : Nat,
      ((Session.of (.of cache partialDir) s).run handle moves).loads[i]? = some (path, .done outcome) →
        ∃ e', (Engine.of cache partialDir).Returns handle s' path outcome e') ∧
    ((∃ e', (Engine.of cache partialDir).Returns handle s' path outcome e') →
      ∃ n, ∀ moves i load, ((Session.of (.of cache partialDir) s).run handle moves).loads[i]? = some (path, load) →
        ∀ more : List Move, n ≤ more.count (.turn i) →
          ((Session.of (.of cache partialDir) s).run handle (moves ++ more)).loads[i]? =
            some (path, .done outcome)) := by
  have he := Engine.over_of h cache partialDir s
  have hS := over_of h cache partialDir s
  rw [he.returns_iff s']
  constructor
  · intro moves i hi
    exact ((hS.run moves).loads _ (List.mem_of_getElem? hi)).verdict _ _ .done
  · rintro ⟨n, hn⟩
    refine ⟨n, fun moves i load hi more hmore => ?_⟩
    obtain ⟨j, hj, hc⟩ := ((hS.run moves).loads _ (List.mem_of_getElem? hi)).within _ _ hn
    have hrun := (hS.run moves).run_done hi hc (hj.trans hmore)
    unfold run at hrun ⊢
    rwa [List.foldl_append]

/-- Two loads of a template that includes itself take turns, and the first one ends as it does alone. -/
theorem outcome_eq_alone_of_cycle : Steady (serving selfIncluding) ∧
    ∃ e', (Engine.of rootCache "t").Returns (serving selfIncluding) () "t/a.html"
      (.error (.cycle ["a", "a"])) e' := by
  refine ⟨serving_steady _, (outcome_eq_alone (serving_steady _) rootCache "t" () () _ _).1
    [.call "t/a.html", .call "t/a.html", .turn 1, .turn 0, .turn 1, .turn 0, .turn 0, .turn 1] 0 ?_⟩
  decide +kernel

end Session
end EdgeWorker.Template
