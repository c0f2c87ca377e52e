import EdgeWorker.Proofs.Template.Call
import EdgeWorker.Proofs.Template.Inclusion
import Mathlib

/-!
Pages of an engine that was used before.

Templates and partials stand in one registry. The scan of a source finds the references of one form only; a partial
tag of any other form is looked up when the page is made, and whether something is there depends on what the engine
was used for. So a page may depend on the history of its engine (`page_depends_on_history`), but only through such tags:

* `Completes.get?_eq` — engines that have completed a template agree on all that its scanned references reach, and on
  every other name that was registered in both or in neither before;
* `renders_alike` — with that, two histories lead to the same page or the same error.
-/

namespace EdgeWorker.Template

open EdgeWorker.Host EdgeWorker.Json

variable {σ : Type} {handle : Handler σ} {site : Site} {texts sources : Texts} {l l' l₁ l₂ l₁' l₂' : Library}
  {e e' : Engine} {s : σ} {n path source : String} {data : Value} {result : Except Error String}

/-! ### What the registries have in common -/

namespace Library

def Has (l : Library) (n : String) : Prop := (l.registry.get? n).isSome

theorem Built.has_iff (h : l.Built texts sources) (hs : l.Slashed) : l.Has n ↔ n ∈ l.loaded ∨ n ∈ l.compiled := by
  unfold Has
  rw [h.get?_eq hs]
  by_cases hl : n ∈ l.loaded
  · obtain ⟨text, ht, hc⟩ := (h.sound n hl).exists_text
    simp [hl, ht, hc]
  · by_cases hc : n ∈ l.compiled
    · obtain ⟨source, hsource, hcompiled, -⟩ := h.compiled n hc
      simp [hl, hc, hsource, hcompiled]
    · simp [hl, hc]

/-- Libraries that were built for one site agree on a name that is a partial in both or in neither, and a template in
both or in neither. -/
theorem Built.get?_congr (h₁ : l₁.Built texts sources) (h₂ : l₂.Built texts sources) (hs₁ : l₁.Slashed)
    (hs₂ : l₂.Slashed) (hl : n ∈ l₁.loaded ↔ n ∈ l₂.loaded) (hc : n ∈ l₁.compiled ↔ n ∈ l₂.compiled) :
    l₁.registry.get? n = l₂.registry.get? n := by
  rw [h₁.get?_eq hs₁, h₂.get?_eq hs₂]
  simp only [hl, hc]

/-- A name that is registered in both libraries or in neither is a partial in both or in neither, and so for
templates. -/
theorem Built.mem_iff_of_has (h₁ : l₁.Built texts sources) (h₂ : l₂.Built texts sources) (hs₁ : l₁.Slashed)
    (hs₂ : l₂.Slashed) (h : l₁.Has n ↔ l₂.Has n) :
    (n ∈ l₁.loaded ↔ n ∈ l₂.loaded) ∧ (n ∈ l₁.compiled ↔ n ∈ l₂.compiled) := by
  rw [h₁.has_iff hs₁, h₂.has_iff hs₂] at h
  by_cases hn : IsPlain n
  · have hc₁ : n ∉ l₁.compiled := fun hc => hs₁ n hc hn
    have hc₂ : n ∉ l₂.compiled := fun hc => hs₂ n hc hn
    simpa [hc₁, hc₂] using h
  · have hl₁ : n ∉ l₁.loaded := fun hl => hn (h₁.loaded_plain n hl)
    have hl₂ : n ∉ l₂.loaded := fun hl => hn (h₂.loaded_plain n hl)
    simpa [hl₁, hl₂] using h

/-- A library before and after the template of a path was completed in it. -/
structure Completes (texts sources : Texts) (path source : String) (l l' : Library) : Prop where
  before : l.Built texts sources
  slashed : l.Slashed
  after : l'.Built texts sources
  grown : l.Grown texts sources path l'
  complete : path ∈ l'.compiled
  source_eq : sources path = some source
  isPath : ¬ IsPlain path

namespace Completes

theorem slashed_after (h : Completes texts sources path source l l') : l'.Slashed := h.slashed.grown h.isPath h.grown

/-- Nothing is registered but the template and what it reaches. -/
theorem mem_iff (h : Completes texts sources path source l l') (hp : n ≠ path) (hr : ¬ texts.Reaches source n) :
    (n ∈ l'.loaded ↔ n ∈ l.loaded) ∧ (n ∈ l'.compiled ↔ n ∈ l.compiled) := by
  refine ⟨⟨fun hn => ?_, fun hn => h.grown.loaded hn⟩, fun hn => ?_, fun hn => h.grown.compiled hn⟩
  · refine (h.grown.reached n hn).resolve_right ?_
    rintro ⟨source', hs, hr'⟩
    rw [h.source_eq] at hs
    cases hs
    exact hr hr'
  · exact (h.grown.only n hn).resolve_right hp

/-- What engines have under a name after both have completed a template: the same, if it is the template or a partial
that the template reaches, or was registered in both or in neither before. -/
theorem get?_eq (h₁ : Completes texts sources path source l₁ l₁') (h₂ : Completes texts sources path source l₂ l₂')
    (hn : n = path ∨ texts.Reaches source n ∨ (l₁.Has n ↔ l₂.Has n)) :
    l₁'.registry.get? n = l₂'.registry.get? n := by
  suffices h : (n ∈ l₁'.loaded ↔ n ∈ l₂'.loaded) ∧ (n ∈ l₁'.compiled ↔ n ∈ l₂'.compiled) from
    h₁.after.get?_congr h₂.after h₁.slashed_after h₂.slashed_after h.1 h.2
  by_cases hp : n = path
  · subst hp
    have hl₁ : n ∉ l₁'.loaded := fun hl => h₁.isPath (h₁.after.loaded_plain n hl)
    have hl₂ : n ∉ l₂'.loaded := fun hl => h₁.isPath (h₂.after.loaded_plain n hl)
    exact ⟨iff_of_false hl₁ hl₂, iff_of_true h₁.complete h₂.complete⟩
  by_cases hr : texts.Reaches source n
  · have hl₁ := h₁.after.reaches_loaded h₁.complete h₁.source_eq hr
    have hl₂ := h₂.after.reaches_loaded h₂.complete h₂.source_eq hr
    have hc₁ : n ∉ l₁'.compiled := fun hc => h₁.slashed_after n hc (h₁.after.loaded_plain n hl₁)
    have hc₂ : n ∉ l₂'.compiled := fun hc => h₂.slashed_after n hc (h₁.after.loaded_plain n hl₁)
    exact ⟨iff_of_true hl₁ hl₂, iff_of_false hc₁ hc₂⟩
  · have hhas : l₁.Has n ↔ l₂.Has n := (hn.resolve_left hp).resolve_left hr
    obtain ⟨hl, hc⟩ := h₁.before.mem_iff_of_has h₂.before h₁.slashed h₂.slashed hhas
    obtain ⟨hl₁, hc₁⟩ := h₁.mem_iff hp hr
    obtain ⟨hl₂, hc₂⟩ := h₂.mem_iff hp hr
    exact ⟨hl₁.trans (hl.trans hl₂.symm), hc₁.trans (hc.trans hc₂.symm)⟩

theorem get?_path (h : Completes texts sources path source l l') : l'.registry.get? path = ofText? source := by
  have hl : path ∉ l'.loaded := fun hl => h.isPath (h.after.loaded_plain path hl)
  rw [h.after.get?_eq h.slashed_after, if_neg hl, if_pos h.complete, h.source_eq, Option.bind_some]

theorem get?_of_reaches (h : Completes texts sources path source l l') (hr : texts.Reaches source n) :
    l'.registry.get? n = (texts n).bind ofText? := by
  rw [h.after.get?_eq h.slashed_after, if_pos (h.after.reaches_loaded h.complete h.source_eq hr)]

end Completes
end Library

/-! ### Pages -/

namespace Engine

/-- A page is made, or the reason why not, and an engine is left; the load of the template was not cut off. -/
def Renders (handle : Handler σ) (e : Engine) (s : σ) (path : String) (data : Value) (result : Except Error String)
    (e' : Engine) : Prop :=
  result ≠ .error (.endless path) ∧ ∃ steps, ((e.renderWithin steps path data).run handle s).1 = (result, e')

theorem run_renderWithin (steps : Nat) : ((e.renderWithin steps path data).run handle s).1 =
    match ((e.loadWithin steps path).run handle s).1 with
    | (.error x, e') => (.error x, e')
    | (.ok (), e') => (e'.page path data, e') := by
  simp only [renderWithin, Action.run_do]
  rcases ((e.loadWithin steps path).run handle s).1 with ⟨x | _, e'⟩
  · rfl
  · rfl

/-- A page is made where its template is loaded. -/
theorem renders_iff : e.Renders handle s path data result e' ↔
    (∃ x, e.Returns handle s path (.error x) e' ∧ result = .error x) ∨
      e.Returns handle s path (.ok ()) e' ∧ result = e'.page path data := by
  unfold Renders Returns
  simp only [run_renderWithin]
  constructor
  · rintro ⟨hne, steps, h⟩
    rcases hload : ((e.loadWithin steps path).run handle s).1 with ⟨x | _, e''⟩
    · rw [hload] at h
      cases h
      refine .inl ⟨x, ⟨fun hx => hne ?_, steps, hload⟩, rfl⟩
      cases hx
      rfl
    · rw [hload] at h
      cases h
      exact .inr ⟨⟨nofun, steps, hload⟩, rfl⟩
  · rintro (⟨x, ⟨hne, steps, h⟩, rfl⟩ | ⟨⟨-, steps, h⟩, rfl⟩)
    · refine ⟨fun hx => hne ?_, steps, by rw [h]⟩
      cases hx
      rfl
    · exact ⟨page_ne_endless path, steps, by rw [h]⟩

/-- Engines make the same page of a template if they have the same under its path and under all names it may ask
for. -/
theorem page_congr (hp : e.library.registry.get? path = e'.library.registry.get? path)
    (ha : ∀ t, e.library.registry.get? path = some t → ∀ n, Asked e.library.registry.get? t n →
      e.library.registry.get? n = e'.library.registry.get? n) : e.page path data = e'.page path data := by
  unfold page
  rw [← hp]
  cases ht : e.library.registry.get? path with
  | none => rfl
  | some t => simp only [render_congr (ha t ht) data path]

theorem Over.completes (h : e.Over handle site) (hs : e.library.Slashed) (hpath : ¬ IsPlain path)
    (hr : e.Returns handle s path (.ok ()) e') (hsource : site.sourceOf path = .ok source) :
    Library.Completes site.texts site.sources path source e.library e'.library := by
  obtain ⟨he, hg, -, hp⟩ := h.returns hr
  exact ⟨h.built, hs, he.built, hg, hp rfl, sources_eq_some.2 hsource, hpath⟩

/-- An engine, with the state of its surroundings, that was fresh and then used for paths. -/
def Reached (handle : Handler σ) (cache : Cache.Current) (partialDir : String) (e : Engine) (s : σ) : Prop :=
  ∃ s₀ uses, (∀ use ∈ uses, ¬ IsPlain use.template) ∧ used handle cache partialDir s₀ uses = (e, s)

theorem Reached.over {cache : Cache.Current} {partialDir : String} (hr : Reached handle cache partialDir e s)
    (h : Steady handle) (s' : σ) : e.Over handle ((Engine.of cache partialDir).site handle s') := by
  obtain ⟨s₀, uses, -, hu⟩ := hr
  have he := over_used h cache partialDir s₀ uses
  rw [hu, h.site_eq _ s₀ s'] at he
  exact he

theorem Reached.slashed {cache : Cache.Current} {partialDir : String} (hr : Reached handle cache partialDir e s)
    (h : Steady handle) : e.library.Slashed := by
  obtain ⟨s₀, uses, huses, hu⟩ := hr
  intro p hp
  have hc := ((over_of h cache partialDir s₀).after uses s₀).2 p
  rw [show ((Engine.of cache partialDir).after uses).run handle s₀ = (e, s) from hu] at hc
  rcases hc hp with hp | ⟨use, huse, rfl⟩
  · cases hp
  · exact huses use huse

/-- **Two histories, one page.** In steady surroundings an engine makes the same page of a template, or fails with the
same error, whatever it was used for before, provided that every other name which the template or what it includes
may ask for, and which the scanned references of the template do not reach, was registered in both histories or in
neither. -/
theorem renders_alike (h : Steady handle) {cache : Cache.Current} {partialDir : String} {e₁ e₂ e₁' : Engine}
    {s₁ s₂ : σ} (h₁ : Reached handle cache partialDir e₁ s₁) (h₂ : Reached handle cache partialDir e₂ s₂)
    (hpath : ¬ IsPlain path) (hr : e₁.Renders handle s₁ path data result e₁')
    (ha : ∀ source t, (e₁.site handle s₁).sourceOf path = .ok source → e₁'.library.registry.get? path = some t →
      ∀ n, Asked e₁'.library.registry.get? t n →
        n = path ∨ (e₁.site handle s₁).texts.Reaches source n ∨ (e₁.library.Has n ↔ e₂.library.Has n)) :
    (∃ e₂', e₂.Renders handle s₂ path data result e₂') ∧
      ∀ result' e₂', e₂.Renders handle s₂ path data result' e₂' → result' = result := by
  have he₁ := h₁.over h s₁
  have he₂ := h₂.over h s₁
  rw [he₁.site_eq] at ha
  rcases renders_iff.1 hr with ⟨x, hload, rfl⟩ | ⟨hload, rfl⟩
  · have hv := (he₁.returns hload).2.2.1
    obtain ⟨e₂', hload₂⟩ := (he₂.returns_iff s₂).2 hv
    refine ⟨⟨e₂', renders_iff.2 (.inl ⟨x, hload₂, rfl⟩)⟩, fun result' e' hr' => ?_⟩
    rcases renders_iff.1 hr' with ⟨x', hload', rfl⟩ | ⟨hload', rfl⟩
    · cases hv.unique (he₂.returns hload').2.2.1
      rfl
    · cases hv.unique (he₂.returns hload').2.2.1
  · have hv := (he₁.returns hload).2.2.1
    obtain ⟨source, hsource, -, -⟩ := hv.sound
    have hc₁ := he₁.completes (h₁.slashed h) hpath hload hsource
    -- whatever engine a load of the second one leaves, it makes the same page
    have hpage : ∀ e₂', e₂.Returns handle s₂ path (.ok ()) e₂' → e₁'.page path data = e₂'.page path data := by
      intro e₂' hload'
      have hc₂ := he₂.completes (h₂.slashed h) hpath hload' hsource
      refine page_congr (hc₁.get?_eq hc₂ (.inl rfl)) fun t ht n hn => hc₁.get?_eq hc₂ ?_
      exact ha source t hsource ht n hn
    obtain ⟨e₂', hload₂⟩ := (he₂.returns_iff s₂).2 hv
    refine ⟨⟨e₂', renders_iff.2 (.inr ⟨hload₂, hpage e₂' hload₂⟩)⟩, fun result' e' hr' => ?_⟩
    rcases renders_iff.1 hr' with ⟨x', hload', rfl⟩ | ⟨hload', rfl⟩
    · cases hv.unique (he₂.returns hload').2.2.1
    · exact (hpage e' hload').symm

/-- A network with a template whose tag is not of the scanned form, one whose tag is, a template that has the name of
a partial, and that partial. -/
def rowPages (address : String) : Except Fetch.Error Http.Response :=
  if address = "https://e.c/t/a.html" then .ok (.plain .ok (Text.bytes "\x7b\x7b> row x=1\x7d\x7d"))
  else if address = "https://e.c/t/b.html" then .ok (.plain .ok (Text.bytes "\x7b\x7b> row\x7d\x7d"))
  else if address = "https://e.c/row" then .ok (.plain .ok (Text.bytes "T"))
  else .ok (.plain .ok (Text.bytes "X"))

/-- The first template finds its partial only where the second one was loaded before; and the template that has the
name of the partial is lost when the partial is loaded. -/
theorem page_depends_on_history : Steady (serving rowPages) ∧
    ((∃ e, (used (serving rowPages) rootCache "t" () []).1.Renders (serving rowPages) ()
        "t/a.html" .null (.ok "") e) ∧
      ∃ e, (used (serving rowPages) rootCache "t" () [.load 9 "t/b.html"]).1.Renders (serving rowPages) ()
        "t/a.html" .null (.ok "X") e) ∧
    (∃ e, (used (serving rowPages) rootCache "t" () []).1.Renders (serving rowPages) () "row" .null (.ok "T") e) ∧
    ∃ e, (used (serving rowPages) rootCache "t" () [.load 9 "row", .load 9 "t/b.html"]).1.Renders
      (serving rowPages) () "row" .null (.ok "X") e := by
  refine ⟨serving_steady _, ⟨⟨_, nofun, 9, Prod.ext ?_ rfl⟩, ⟨_, nofun, 9, Prod.ext ?_ rfl⟩⟩,
    ⟨_, nofun, 9, Prod.ext ?_ rfl⟩, ⟨_, nofun, 9, Prod.ext ?_ rfl⟩⟩
  · decide +kernel
  · decide +kernel
  · decide +kernel
  · decide +kernel

/-- The second template has its partial whether the first one was loaded before or not. -/
theorem renders_alike_of_scanned :
    ∃ e, (used (serving rowPages) rootCache "t" () [.load 9 "t/a.html"]).1.Renders (serving rowPages) ()
      "t/b.html" .null (.ok "X") e := by
  have hsteady := serving_steady rowPages
  have h₁ : Reached (serving rowPages) rootCache "t" (.of rootCache "t") () := ⟨(), [], nofun, rfl⟩
  have h₂ : Reached (serving rowPages) rootCache "t"
      (used (serving rowPages) rootCache "t" () [.load 9 "t/a.html"]).1 () :=
    ⟨(), [.load 9 "t/a.html"], by decide, rfl⟩
  have hpath : ¬ IsPlain "t/b.html" := by decide
  obtain ⟨e, hr⟩ : ∃ e, (Engine.of rootCache "t").Renders (serving rowPages) () "t/b.html" .null (.ok "X") e := by
    refine ⟨_, nofun, 9, Prod.ext ?_ rfl⟩
    decide +kernel
  have hsource : ((Engine.of rootCache "t").site (serving rowPages) ()).sourceOf "t/b.html" =
      .ok "\x7b\x7b> row\x7d\x7d" := by decide +kernel
  have hrow : ((Engine.of rootCache "t").site (serving rowPages) ()).textOf "row" = .ok "X" := by decide +kernel
  have hreach : ((Engine.of rootCache "t").site (serving rowPages) ()).texts.Reaches "\x7b\x7b> row\x7d\x7d" "row" :=
    ⟨"row", by decide +kernel, .refl⟩
  have htag : ofText? "\x7b\x7b> row\x7d\x7d" = some [.include ⟨.named (.word "row"), [], []⟩ [] none] := by cbv
  have htext : ofText? "X" = some [.text ['X']] := by cbv
  obtain ⟨x, -, hx⟩ | ⟨hload, -⟩ := renders_iff.1 hr
  · cases hx
  have hc := (h₁.over hsteady ()).completes (h₁.slashed hsteady) hpath hload hsource
  refine (renders_alike hsteady h₁ h₂ hpath hr fun source t hs ht n hn => ?_).1
  rw [hsource] at hs
  cases hs
  rw [hc.get?_path, htag] at ht
  cases ht
  suffices h : n = "row" from .inr (.inl (h ▸ hreach))
  induction hn with
  | directly h =>
    obtain ⟨e, he, hn⟩ := h
    cases List.mem_singleton.1 he
    cases hn with
    | tag h => exact h.symm
  | within _ ht' h ih =>
    subst ih
    rw [hc.get?_of_reaches hreach, texts_eq_some.2 hrow, Option.bind_some, htext] at ht'
    cases ht'
    obtain ⟨e, he, hn⟩ := h
    cases List.mem_singleton.1 he
    cases hn

end Engine
end EdgeWorker.Template
