import EdgeWorker.Proofs.Template.Failure
import EdgeWorker.Proofs.Template.Run

/-!
Calls of an engine over a site.

* `Engine.Over handle site e` — the engine is told what the site says, and its library was built for the site;
* `Over.turn`, `Over.carryOn` — a turn, and any number of turns, leave it so, and the load pursues the verdict on its
  path; `Over.turn_concludes` — a turn takes it closer to that;
* `Over.returns_iff` — a call of such an engine returns the verdict of the site, whatever is registered;
* `Engine.after` — the engine that earlier uses have left.
-/

namespace EdgeWorker.Template

open EdgeWorker.Host

variable {σ : Type} {handle : Handler σ} {site : Site} {e e' : Engine} {s s' : σ} {k steps : Nat}
  {path n : String} {load : Load} {outcome outcome' : Except Error Unit} {x : Error} {chain : List String}

namespace Engine

/-- An engine that is told what a site says, with a library that was built for the site. -/
structure Over (handle : Handler σ) (site : Site) (e : Engine) : Prop where
  site_eq : ∀ s, e.site handle s = site
  built : e.library.Built site.texts site.sources

/-- A fresh engine in steady surroundings is one over its site. -/
theorem over_of (h : Steady handle) (cache : Cache.Current) (partialDir : String) (s : σ) :
    (Engine.of cache partialDir).Over handle ((Engine.of cache partialDir).site handle s) :=
  ⟨fun s' => h.site_eq _ s' s, .empty⟩

namespace Over

theorem isAt_of_textOf (h : e.Over handle site) (s : σ) (hx : site.textOf n = .error x) :
    x.IsAt (site.partialPath n) := by
  rw [← h.site_eq s] at hx ⊢
  exact isAt_of_fetched e _ hx

theorem isAt_of_sourceOf (h : e.Over handle site) (s : σ) (hx : site.sourceOf path = .error x) : x.IsAt path := by
  rw [← h.site_eq s] at hx
  unfold Site.sourceOf at hx
  split at hx
  · rename_i hc
    cases hx
    exact isAt_of_cached e _ hc
  · cases hx
  · exact isAt_of_fetched e _ hx

/-! ### Turns -/

theorem turn_kept (h : e.Over handle site) (hp : Pursues site path e.library load) (s : σ) :
    Kept site.texts site.sources path e.library (e.turn handle load s).1.library (e.turn handle load s).2.1 := by
  rw [turn_library, turn_load, h.site_eq]
  exact step_kept h.built hp.fits hp.isOf (told_of_missed hp.missed)

theorem turn (h : e.Over handle site) (hp : Pursues site path e.library load) (s : σ) :
    (e.turn handle load s).1.Over handle site := by
  refine ⟨fun s' => ?_, (h.turn_kept hp s).built⟩
  rw [turn_site, h.site_eq]

theorem turn_pursues (h : e.Over handle site) (hp : Pursues site path e.library load) (s : σ) :
    Pursues site path (e.turn handle load s).1.library (e.turn handle load s).2.1 := by
  rw [turn_library, turn_load, h.site_eq]
  exact step_pursues h.built hp

/-- A turn takes a load that waits closer to its outcome. -/
theorem turn_concludes (h : e.Over handle site) (hp : Pursues site path e.library load) (hw : load.Waiting)
    (hc : Concludes site k load outcome) (s : σ) : ∃ j < k, Concludes site j (e.turn handle load s).2.1 outcome := by
  obtain ⟨c, hsteps⟩ := step_precedes h.built hp.fits hp.missed hw
  obtain ⟨j, rfl, hj⟩ := (hsteps _ _).1 hc
  rw [turn_load, h.site_eq]
  exact ⟨j, by omega, hj⟩

/-- Turns of a load up to its end, or to the last one. -/
theorem carryOn (h : e.Over handle site) (steps : Nat) (hp : Pursues site path e.library load) (s : σ) :
    ∃ e' load', (((Engine.carryOn path steps e load).run handle s).1 = (.error (.endless path), e') ∨
        ∃ outcome, load' = .done outcome ∧ ((Engine.carryOn path steps e load).run handle s).1 = (outcome, e')) ∧
      e'.Over handle site ∧ Pursues site path e'.library load' ∧
      e.library.Grown site.texts site.sources path e'.library := by
  refine carryOn_invariant handle (I := fun e' load' => e'.Over handle site ∧ Pursues site path e'.library load' ∧
    e.library.Grown site.texts site.sources path e'.library) ?_ ⟨h, hp, .refl _ _ _ _⟩ steps path s
  rintro e' load' s' - ⟨he, hp', hg⟩
  exact ⟨he.turn hp' s', he.turn_pursues hp' s', hg.trans (he.turn_kept hp' s').grown⟩

/-- A load that needs no more answers than there are turns comes to its end. -/
theorem carryOn_concludes (h : e.Over handle site) (hp : Pursues site path e.library load)
    (hc : Concludes site k load outcome) (hk : k ≤ steps) (s : σ) :
    ((Engine.carryOn path steps e load).run handle s).1.1 = outcome := by
  induction steps generalizing e load k s with
  | zero =>
    obtain rfl := hc.eq_done (Nat.le_zero.1 hk)
    rw [run_carryOn_done]
  | succ steps ih =>
    rcases load.waiting_or_done with hw | ⟨outcome', rfl⟩
    · obtain ⟨j, hj, hnext⟩ := h.turn_concludes hp hw hc s
      rw [run_carryOn_succ steps hw]
      exact ih (h.turn hp s) (h.turn_pursues hp s) hnext (by omega) _
    · rw [run_carryOn_done, (concludes_done.1 hc).2]

/-! ### Calls -/

/-- A load, cut off or not, leaves an engine over the site that has grown by what the template reaches. One that was
not cut off comes back with the verdict. -/
theorem loadWithin (h : e.Over handle site) (steps : Nat) (path : String) (s : σ) :
    ∃ outcome e', ((e.loadWithin steps path).run handle s).1 = (outcome, e') ∧ e'.Over handle site ∧
      e.library.Grown site.texts site.sources path e'.library ∧
      (outcome = .error (.endless path) ∨
        Verdict site path outcome ∧ (outcome = .ok () → path ∈ e'.library.compiled)) := by
  obtain ⟨e', load, hr, he, hp, hg⟩ := h.carryOn steps (begin_pursues h.built path) s
  rcases hr with hr | ⟨outcome, rfl, hr⟩
  · exact ⟨_, e', hr, he, hg, .inl rfl⟩
  · refine ⟨outcome, e', hr, he, hg, .inr ⟨hp.verdict _ _ .done, fun ho => ?_⟩⟩
    cases ho
    exact hp.isOf

theorem returns (h : e.Over handle site) (hr : e.Returns handle s path outcome e') :
    e'.Over handle site ∧ e.library.Grown site.texts site.sources path e'.library ∧ Verdict site path outcome ∧
      (outcome = .ok () → path ∈ e'.library.compiled) := by
  obtain ⟨hne, steps, hs⟩ := hr
  obtain ⟨outcome', e'', hs', he, hg, ho⟩ := h.loadWithin steps path s
  rw [hs] at hs'
  cases hs'
  exact ⟨he, hg, ho.resolve_left hne⟩

/-- A verdict is not that a call was cut off. -/
theorem not_endless (h : e.Over handle site) (s : σ) {p : String} : ¬ Verdict site path (.error (.endless p)) := by
  intro hv
  obtain ⟨chain, hf⟩ := hv.fails
  cases hf with
  | source hx => rcases h.isAt_of_sourceOf s hx with ⟨_, hx⟩ | ⟨_, hx⟩ <;> cases hx
  | lost _ _ hx => rcases h.isAt_of_textOf s hx with ⟨_, hx⟩ | ⟨_, hx⟩ <;> cases hx

/-- **A call returns the verdict of the site on its path**, whatever the engine has registered. -/
theorem returns_iff (h : e.Over handle site) (s : σ) :
    (∃ e', e.Returns handle s path outcome e') ↔ Verdict site path outcome := by
  constructor
  · rintro ⟨e', hr⟩
    exact (h.returns hr).2.2.1
  · rintro ⟨k, hk⟩
    obtain ⟨j, -, hj⟩ := (begin_pursues h.built path).within _ _ hk
    refine ⟨((e.loadWithin j path).run handle s).1.2, fun ho => ?_, j, ?_⟩
    · subst ho
      exact h.not_endless s ⟨k, hk⟩
    · exact Prod.ext (h.carryOn_concludes (begin_pursues h.built path) hj (Nat.le_refl j) s) rfl

end Over
end Engine

/-! ### Histories -/

namespace Engine

/-- A use of an engine: a template is loaded, or a page is made. It may take so many steps. -/
inductive Use where
  | load (steps : Nat) (path : String)
  | render (steps : Nat) (path : String) (data : Json.Value)

def Use.template : Use → String
  | .load _ p | .render _ p _ => p

def perform (e : Engine) : Use → Job Engine
  | .load steps path => do return (← e.loadWithin steps path).2
  | .render steps path data => do return (← e.renderWithin steps path data).2

def after (e : Engine) : List Use → Job Engine
  | [] => return e
  | use :: uses => do (← e.perform use).after uses

theorem Over.perform (h : e.Over handle site) (use : Use) (s : σ) :
    ((e.perform use).run handle s).1.Over handle site ∧
      e.library.Grown site.texts site.sources use.template ((e.perform use).run handle s).1.library := by
  cases use with
  | load steps path =>
    obtain ⟨outcome, e', hr, he, hg, -⟩ := h.loadWithin steps path s
    simp only [Engine.perform, Action.run_do, Action.run_pure, hr]
    exact ⟨he, hg⟩
  | render steps path data =>
    obtain ⟨outcome, e', hr, he, hg, -⟩ := h.loadWithin steps path s
    simp only [Engine.perform, renderWithin, Action.run_do, Action.run_pure, hr]
    cases outcome with
    | error x => exact ⟨he, hg⟩
    | ok _ => exact ⟨he, hg⟩

/-- Whatever it is used for, the engine stays one over the same site. Only the templates that it is used for become
complete. -/
theorem Over.after (h : e.Over handle site) (uses : List Use) (s : σ) :
    ((e.after uses).run handle s).1.Over handle site ∧
      ∀ p ∈ ((e.after uses).run handle s).1.library.compiled,
        p ∈ e.library.compiled ∨ ∃ use ∈ uses, p = use.template := by
  induction uses generalizing e s with
  | nil => exact ⟨h, fun _ hp => .inl hp⟩
  | cons use uses ih =>
    obtain ⟨he, hg⟩ := h.perform use s
    obtain ⟨he', hc⟩ := ih he ((e.perform use).run handle s).2
    simp only [Engine.after, Action.run_do]
    refine ⟨he', fun p hp => ?_⟩
    rcases hc p hp with hp | ⟨u, hu, rfl⟩
    · exact (hg.only p hp).imp_right fun h => ⟨use, List.mem_cons_self, h⟩
    · exact .inr ⟨u, .tail _ hu, rfl⟩

def used (handle : Handler σ) (cache : Cache.Current) (partialDir : String) (s : σ) (uses : List Use) : Engine × σ :=
  ((Engine.of cache partialDir).after uses).run handle s

/-- A used engine in steady surroundings is one over the site that it began with. -/
theorem over_used (h : Steady handle) (cache : Cache.Current) (partialDir : String) (s : σ) (uses : List Use) :
    (used handle cache partialDir s uses).1.Over handle ((Engine.of cache partialDir).site handle s) :=
  ((over_of h cache partialDir s).after uses s).1

end Engine
end EdgeWorker.Template
