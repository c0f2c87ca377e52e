import EdgeWorker.Proofs.Template.Call

/-!
Cycles among partials, over an engine that was used before.

* `Verdict.not_isCyclic` — a template that is loaded reaches no cycle;
* `Fails.of_cycle` — a cycle is reported with a chain of references that comes back to one of its names for the first
  time;
* `Engine.Over.left_out` — a template that fails is not complete afterwards, and nothing on the way to the failure is
  registered;
* `Engine.cycles_after` — all of it for an engine with a history.
-/

namespace EdgeWorker.Template

open Relation EdgeWorker.Host

variable {σ : Type} {handle : Handler σ} {site : Site} {e : Engine} {source path : String}
  {chain failing : List String} {x : Error}

/-- The partials that are reached from a template which can be loaded do not refer to themselves. -/
theorem Verdict.not_isCyclic (h : Verdict site path (.ok ())) (hs : site.sourceOf path = .ok source) :
    ¬ site.texts.IsCyclic source := by
  obtain ⟨source', hs', -, hsound⟩ := h.sound
  rw [hs] at hs'
  cases hs'
  exact Texts.not_isCyclic_of_sound hsound

/-- What a reported cycle is: references one after another, the last name of which is the first one to come again. -/
def Site.IsCycleOf (site : Site) (source : String) (chain : List String) : Prop :=
  site.texts.IsChain source chain ∧ ∃ names last, chain = names ++ [last] ∧ last ∈ names ∧ names.Nodup

theorem Site.IsCycleOf.isCyclic (h : site.IsCycleOf source chain) : site.texts.IsCyclic source := by
  obtain ⟨hc, names, last, rfl, hm, -⟩ := h
  exact ⟨last, hc.reaches (List.mem_append_left _ hm), hc.transGen_of_mem hm⟩

/-- Only a cycle is reported as one. -/
theorem Fails.of_cycle (h : Fails site path (.cycle chain) failing) (he : e.Over handle site) (s : σ) :
    ∃ source, site.sourceOf path = .ok source ∧ site.IsCycleOf source chain := by
  cases h with
  | source hx => rcases he.isAt_of_sourceOf s hx with ⟨_, hx⟩ | ⟨_, hx⟩ <;> cases hx
  | lost _ _ hx => rcases he.isAt_of_textOf s hx with ⟨_, hx⟩ | ⟨_, hx⟩ <;> cases hx
  | cycle hs hc hnd hm => exact ⟨_, hs, hc, _, _, rfl, hm, hnd⟩

namespace Engine

/-- A template whose verdict is a failure is not complete, and no name of a chain to the failure is registered. -/
theorem Over.left_out (h : e.Over handle site) (hv : Verdict site path (.error x)) :
    path ∉ e.library.compiled ∧ ∀ chain, Fails site path x chain → ∀ n ∈ chain, n ∉ e.library.loaded := by
  refine ⟨fun hp => ?_, fun chain hf n hn hl => hf.not_sound n hn (h.built.sound n hl)⟩
  cases hv.unique (verdict_of_compiled h.built hp)

/-- **Cycles.** For a call of an engine in steady surroundings, whatever the engine was used for before: a template
that reaches a cycle is not loaded; one that reaches none does not fail for a cycle; the chain of a cycle is one of
references from the template that comes back to one of its names; and after a failure the template is not complete,
and nothing on the way to the failure is registered. -/
theorem cycles_after (h : Steady handle) (cache : Cache.Current) (partialDir : String) (uses : List Use) (s : σ)
    {path : String} {outcome : Except Error Unit} {e' : Engine}
    (hr : (used handle cache partialDir s uses).1.Returns handle (used handle cache partialDir s uses).2
      path outcome e') :
    let site := (Engine.of cache partialDir).site handle s
    (∀ source, site.sourceOf path = .ok source →
      (site.texts.IsCyclic source → outcome ≠ .ok ()) ∧
      (¬ site.texts.IsCyclic source → ∀ chain, outcome ≠ .error (.cycle chain))) ∧
    (∀ chain, outcome = .error (.cycle chain) →
      ∃ source, site.sourceOf path = .ok source ∧ site.IsCycleOf source chain) ∧
    (∀ x, outcome = .error x → path ∉ e'.library.compiled ∧ (∃ chain, Fails site path x chain) ∧
      ∀ chain, Fails site path x chain → ∀ n ∈ chain, n ∉ e'.library.loaded) := by
  have he := over_used h cache partialDir s uses
  obtain ⟨he', -, hv, -⟩ := he.returns hr
  have hcycle : ∀ chain, outcome = .error (.cycle chain) → ∃ source,
      ((Engine.of cache partialDir).site handle s).sourceOf path = .ok source ∧
        ((Engine.of cache partialDir).site handle s).IsCycleOf source chain := by
    rintro chain rfl
    obtain ⟨failing, hf⟩ := hv.fails
    exact hf.of_cycle he' s
  refine ⟨fun source hs => ⟨?_, ?_⟩, hcycle, ?_⟩
  · rintro hc rfl
    exact hv.not_isCyclic hs hc
  · intro hc chain ho
    obtain ⟨source', hs', hchain⟩ := hcycle chain ho
    rw [hs] at hs'
    cases hs'
    exact hc hchain.isCyclic
  · rintro x rfl
    obtain ⟨hp, hl⟩ := he'.left_out hv
    exact ⟨hp, hv.fails, hl⟩

/-- A template that includes itself fails a second time, and is still left out. -/
theorem cycles_after_failure : Steady (serving selfIncluding) ∧
    ∃ e', (used (serving selfIncluding) rootCache "t" () [.load 9 "t/a.html"]).1.Returns (serving selfIncluding) ()
      "t/a.html" (.error (.cycle ["a", "a"])) e' ∧ "t/a.html" ∉ e'.library.compiled := by
  obtain ⟨e', hr⟩ : ∃ e', (used (serving selfIncluding) rootCache "t" () [.load 9 "t/a.html"]).1.Returns
      (serving selfIncluding) () "t/a.html" (.error (.cycle ["a", "a"])) e' := by
    refine ⟨_, nofun, 9, Prod.ext ?_ rfl⟩
    decide +kernel
  exact ⟨serving_steady _, _, hr, ((cycles_after (serving_steady _) rootCache "t" _ () hr).2.2 _ rfl).1⟩

end Engine
end EdgeWorker.Template
