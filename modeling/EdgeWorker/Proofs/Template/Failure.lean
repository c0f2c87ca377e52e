import EdgeWorker.Proofs.Template.Verdict

/-!
What the verdict on a path says about the partials of its template.

* `Verdict.sound` — a success means that every partial of the template is sound;
* `Fails site path x chain` — the failure `x` at the end of a chain of partials: the last one cannot be had, is no
  template, or stands in the chain before. The chain of a template that fails by itself is empty;
* `Verdict.fails` — every error is such a failure, and no name of its chain is sound (`Fails.not_sound`).
-/

namespace EdgeWorker.Template

open Relation

variable {site : Site} {k : Nat} {n name source path text : String} {chain : List String} {frames : List Frame}
  {x : Error}

/-! ### Success -/

/-- If frames end well, all that is referred to from them is sound, and the partials among them can be compiled. -/
theorem Ends.sound (h : Ends site k frames (.ok ())) : ∀ f ∈ frames,
    (∀ n ∈ f.pending, site.texts.Sound n) ∧ (f.name.isSome → (ofText? f.source).isSome) := by
  generalize ho : (Except.ok () : Except Error Unit) = outcome at h
  induction h with
  | complete => intro f hf; cases hf
  | leave _ ih =>
    intro f hf
    rcases List.mem_cons.1 hf with rfl | hf
    · refine ⟨fun n hn => ?_, fun h => ?_⟩
      · cases hn
      · cases h
    · exact ih ho f hf
  | malformed => cases ho
  | register hc _ ih =>
    intro f hf
    rcases List.mem_cons.1 hf with rfl | hf
    · refine ⟨fun n hn => ?_, fun _ => hc⟩
      cases hn
    · exact ih ho f hf
  | cycle => cases ho
  | lost => cases ho
  | follow _ ht _ ih =>
    obtain ⟨hs, hc⟩ := ih ho _ List.mem_cons_self
    intro f hf
    rcases List.mem_cons.1 hf with rfl | hf
    · have hown := ih ho _ (.tail _ List.mem_cons_self)
      refine ⟨fun n hn => ?_, hown.2⟩
      rcases List.mem_cons.1 hn with rfl | hn
      · exact .of (texts_eq_some.2 ht) (hc rfl) hs
      · exact hown.1 n hn
    · exact ih ho f (.tail _ (.tail _ hf))

/-- A template is loaded only if all its partials are sound. -/
theorem Verdict.sound (h : Verdict site path (.ok ())) : ∃ source, site.sourceOf path = .ok source ∧
    (ofText? source).isSome ∧ ∀ n ∈ partialNames source, site.texts.Sound n := by
  cases hs : site.sourceOf path with
  | error e =>
    have := (verdict_iff_of_error hs).1 h
    cases this
  | ok source =>
    obtain ⟨k, ended, he, ho⟩ := (verdict_iff hs).1 h
    cases ended with
    | error e => cases ho
    | ok _ =>
      refine ⟨source, rfl, ?_, (he.sound _ List.mem_cons_self).1⟩
      by_contra hc
      rw [compiledOr, if_neg hc] at ho
      cases ho

/-! ### Failure -/

/-- A failure at the end of a chain of partials of a template. -/
inductive Fails (site : Site) (path : String) : Error → List String → Prop
  | source {x : Error} : site.sourceOf path = .error x → Fails site path x []
  | template {source : String} : site.sourceOf path = .ok source → ofText? source = none →
      Fails site path (.malformed path) []
  | lost {source n : String} {chain : List String} {x : Error} : site.sourceOf path = .ok source →
      site.texts.IsChain source (chain ++ [n]) → site.textOf n = .error x → Fails site path x (chain ++ [n])
  | malformed {source n text : String} {chain : List String} : site.sourceOf path = .ok source →
      site.texts.IsChain source (chain ++ [n]) → site.textOf n = .ok text → ofText? text = none →
      Fails site path (.malformed n) (chain ++ [n])
  | cycle {source n : String} {chain : List String} : site.sourceOf path = .ok source →
      site.texts.IsChain source (chain ++ [n]) → chain.Nodup → n ∈ chain →
      Fails site path (.cycle (chain ++ [n])) (chain ++ [n])

/-- What leads to a partial that is not sound is not sound. -/
theorem Texts.IsChain.not_sound {texts : Texts} (h : texts.IsChain source (chain ++ [n])) (hn : ¬ texts.Sound n) :
    ∀ m ∈ chain ++ [n], ¬ texts.Sound m :=
  fun _ hm hs => hn (hs.reflTransGen (h.reflTransGen_getLast hm List.getLast?_concat))

/-- No name of a failing chain is sound. -/
theorem Fails.not_sound (h : Fails site path x chain) : ∀ n ∈ chain, ¬ site.texts.Sound n := by
  cases h with
  | source => intro n hn; cases hn
  | template => intro n hn; cases hn
  | lost _ hc ht =>
    refine hc.not_sound fun hs => ?_
    obtain ⟨text, ht', -⟩ := hs.exists_text
    rw [texts_eq_some, ht] at ht'
    cases ht'
  | malformed _ hc ht hn =>
    refine hc.not_sound fun hs => ?_
    obtain ⟨text, ht', hsome⟩ := hs.exists_text
    rw [texts_eq_some, ht] at ht'
    cases ht'
    rw [hn] at hsome
    cases hsome
  | cycle _ hc _ hm => exact hc.not_sound fun hs => hs.not_transGen (hc.transGen_of_mem hm)

/-- Frames of a template that end in an error end in a failure of the template. -/
theorem Ends.fails (h : Ends site k frames (.error x)) (hl : Linked site.texts source frames)
    (hs : site.sourceOf path = .ok source) : ∃ chain, Fails site path x chain := by
  generalize ho : (Except.error x : Except Error Unit) = outcome at h
  induction h with
  | complete => cases ho
  | leave _ ih => exact ih hl.outer ho
  | malformed hn =>
    cases ho
    have hc := hl.isChain
    cases hl with
    | inner _ ht =>
      rw [chainOf_cons] at hc
      exact ⟨_, .malformed hs hc (texts_eq_some.1 ht) hn⟩
  | register _ _ ih => exact ih hl.outer ho
  | cycle hm =>
    cases ho
    exact ⟨_, .cycle hs (hl.follow.2.isChain_concat hl.follow.1) hl.follow.2.nodup hm⟩
  | lost _ he =>
    cases ho
    exact ⟨_, .lost hs (hl.follow.2.isChain_concat hl.follow.1) he⟩
  | follow hn ht _ ih =>
    exact ih (.inner hl.follow.1 (texts_eq_some.2 ht) hn (fun _ h => h) hl.follow.2) ho

/-- Every error is a failure at the end of a chain. -/
theorem Verdict.fails (h : Verdict site path (.error x)) : ∃ chain, Fails site path x chain := by
  cases hs : site.sourceOf path with
  | error e =>
    cases (verdict_iff_of_error hs).1 h
    exact ⟨[], .source hs⟩
  | ok source =>
    obtain ⟨k, ended, he, ho⟩ := (verdict_iff hs).1 h
    cases ended with
    | error e =>
      cases ho
      exact he.fails (.start _ _) hs
    | ok _ =>
      by_cases hc : (ofText? source).isSome
      · rw [compiledOr, if_pos hc] at ho
        cases ho
      · rw [compiledOr, if_neg hc] at ho
        cases ho
        exact ⟨[], .template hs (Option.not_isSome_iff_eq_none.1 hc)⟩

end EdgeWorker.Template
