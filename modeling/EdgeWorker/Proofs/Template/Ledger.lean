import EdgeWorker.Proofs.Template.Call
import Mathlib.Logic.Function.Basic

/-!
What an engine holds in surroundings that may answer differently every time.

* `Ledger` — the sources that an engine was given so far, the last one for each name. The engine does not keep it;
* `Account` — an engine with its ledger; `Account.run_after` — it does what the engine does;
* `Ledger.Keeps` — the invariant of a load under way, whose library was built from what the ledger says;
* `Account.holds_after` — after any uses, and in the midst of one, what is registered was built from the sources in
  the ledger.
-/

namespace EdgeWorker.Template

open Relation EdgeWorker.Host

variable {σ : Type} {handle : Handler σ} {site : Site} {l : Library} {load : Load}
  {path : String}

/-- The sources that were given for partials and for templates, the last one for each. -/
structure Ledger where
  texts : Texts
  sources : Texts

namespace Ledger

def empty : Ledger := ⟨fun _ => none, fun _ => none⟩

/-- The ledger with what a site tells a load. -/
def hear (L : Ledger) (site : Site) : Load → Ledger
  | .atCache path =>
    match site.cached path with
    | .ok (some source) => { L with sources := Function.update L.sources path (some source) }
    | _ => L
  | .atNetwork path =>
    match site.fetched path with
    | .ok source => { L with sources := Function.update L.sources path (some source) }
    | .error _ => L
  | .atPart _ _ name _ =>
    match site.textOf name with
    | .ok text => { L with texts := Function.update L.texts name (some text) }
    | .error _ => L
  | .done _ => L

/-- A library was built from the sources in a ledger, and no template in it has the name of a partial. -/
structure Makes (L : Ledger) (l : Library) : Prop where
  built : l.Built L.texts L.sources
  slashed : l.Slashed

/-- What holds of a load of a path, alone over a library, whenever it waits or is done. -/
structure Keeps (L : Ledger) (path : String) (l : Library) (load : Load) : Prop where
  made : L.Makes l
  fits : load.Fits L.texts L.sources l
  isOf : load.IsOf path l
  isNew : load.IsNew l
  pending : load.Waiting → path ∉ l.compiled

variable {L : Ledger}

/-- A source for a path that is not complete may be entered. -/
theorem Keeps.source (h : L.Keeps path l load) (hf : ∀ sources, load.Fits L.texts sources l) (hw : load.Waiting)
    (source : String) :
    Keeps { L with sources := Function.update L.sources path (some source) } path l load := by
  refine ⟨⟨h.made.built.congr (fun _ _ => rfl) fun p hp => ?_, h.made.slashed⟩, hf _, h.isOf, h.isNew, h.pending⟩
  have hne : p ≠ path := fun hpath => h.pending hw (hpath ▸ hp)
  exact (Function.update_of_ne hne _ _).symm

/-- What is told may be entered into the ledger: it is about nothing that is registered or on the way. -/
theorem Keeps.hear (h : L.Keeps path l load) (site : Site) : (L.hear site load).Keeps path l load := by
  match load with
  | .done _ => exact h
  | .atCache p =>
    obtain rfl : p = path := h.isOf
    simp only [Ledger.hear]
    split
    · exact h.source (fun _ => trivial) trivial _
    · exact h
  | .atNetwork p =>
    obtain rfl : p = path := h.isOf
    simp only [Ledger.hear]
    split
    · exact h.source (fun _ => trivial) trivial _
    · exact h
  | .atPart p source name frames =>
    simp only [Ledger.hear]
    split
    · have hnew : name ∉ l.loaded := h.isNew
      have hw : Waits L.texts L.sources l p source name frames := h.fits
      refine ⟨⟨h.made.built.congr (fun n hn => ?_) fun _ _ => rfl, h.made.slashed⟩, ?_, h.isOf, h.isNew, h.pending⟩
      · have hne : n ≠ name := fun hname => hnew (hname ▸ hn)
        exact (Function.update_of_ne hne _ _).symm
      · refine ⟨hw.source_eq, hw.linked.congr fun n hn => ?_, hw.named, hw.fresh, hw.covered⟩
        have hne : n ≠ name := fun hname => hw.fresh (hname ▸ hn)
        exact (Function.update_of_ne hne _ _).symm
    · exact h

/-- The ledger has what a load is told. -/
theorem told_hear (L : Ledger) (site : Site) (load : Load) :
    load.Told site (L.hear site load).texts (L.hear site load).sources := by
  cases load with
  | done => trivial
  | atCache path =>
    intro source hc
    simp only [hear, hc, Function.update_self]
  | atNetwork path =>
    intro source hc
    simp only [hear, hc, Function.update_self]
  | atPart path source name frames =>
    intro text ht
    have ht' : site.textOf name = .ok text := ht
    simp only [hear, ht', Function.update_self]

theorem Makes.begin (h : L.Makes l) (path : String) : L.Keeps path l (Load.begin l path) := by
  unfold Load.begin
  split
  · rename_i hp
    exact ⟨h, trivial, Library.isCompiled_iff.1 hp, trivial, fun hw => hw.elim⟩
  · rename_i hp
    exact ⟨h, trivial, rfl, trivial, fun _ => mt Library.isCompiled_iff.2 hp⟩

/-- A step keeps the invariant, with the ledger that has what the step was told. -/
theorem Keeps.step (h : L.Keeps path l load) (hpath : ¬ IsPlain path) (site : Site) :
    (L.hear site load).Keeps path (load.step site l).1 (load.step site l).2.2 := by
  have hh := h.hear site
  have hk := step_kept hh.made.built hh.fits hh.isOf (told_hear L site load)
  refine ⟨⟨hk.built, h.made.slashed.grown hpath hk.grown⟩, hk.fits, hk.isOf, hk.isNew, fun hw => ?_⟩
  rw [hk.early hw]
  rcases load.waiting_or_done with hload | ⟨outcome, rfl⟩
  · exact h.pending hload
  · exact hw.elim

/-- What a library holds when it was built from the sources of a ledger. -/
structure Holds (L : Ledger) (l : Library) : Prop where
  registered : ∀ n ∈ l.loaded, ∃ text t, L.texts n = some text ∧ ofText? text = some t ∧ l.registry.get? n = some t
  closed : ∀ n ∈ l.loaded, ∀ m, L.texts.Refers n m → m ∈ l.loaded
  acyclic : ∀ n ∈ l.loaded, ¬ TransGen L.texts.Refers n n
  complete : ∀ p ∈ l.compiled, ∃ source t, L.sources p = some source ∧ ofText? source = some t ∧
    l.registry.get? p = some t ∧ ∀ n ∈ partialNames source, n ∈ l.loaded

theorem Makes.holds (h : L.Makes l) : L.Holds l := by
  obtain ⟨hb, hs⟩ := h
  refine ⟨fun n hn => ?_, fun n hn m hm => ?_, fun n hn => (hb.sound n hn).not_transGen, fun p hp => ?_⟩
  · obtain ⟨text, ht, hc⟩ := (hb.sound n hn).exists_text
    obtain ⟨t, hc⟩ := Option.isSome_iff_exists.1 hc
    refine ⟨text, t, ht, hc, ?_⟩
    rw [hb.get?_eq hs, if_pos hn, ht]
    exact hc
  · obtain ⟨text, ht, hm⟩ := hm
    exact hb.loaded_closed n hn text ht m hm
  · obtain ⟨source, hsource, hc, hl⟩ := hb.compiled p hp
    obtain ⟨t, hc⟩ := Option.isSome_iff_exists.1 hc
    have hn : p ∉ l.loaded := fun hn => hs p hp (hb.loaded_plain p hn)
    refine ⟨source, t, hsource, hc, ?_, hl⟩
    rw [hb.get?_eq hs, if_neg hn, if_pos hp, hsource]
    exact hc

end Ledger

/-- An engine in its surroundings, with the ledger of what it was given. -/
structure Account (σ : Type) where
  engine : Engine
  ledger : Ledger
  surroundings : σ

namespace Account

variable {A : Account σ}

def of (e : Engine) (s : σ) : Account σ := ⟨e, .empty, s⟩

/-- One turn of a load, entered into the ledger. -/
def turn (handle : Handler σ) (A : Account σ) (load : Load) : Account σ × Load :=
  let next := A.engine.turn handle load A.surroundings
  (⟨next.1, A.ledger.hear (A.engine.site handle A.surroundings) load, next.2.2⟩, next.2.1)

def carryOn (handle : Handler σ) : Nat → Account σ → Load → Account σ
  | _, A, .done _ => A
  | 0, A, _ => A
  | steps + 1, A, load => carryOn handle steps (A.turn handle load).1 (A.turn handle load).2

def perform (handle : Handler σ) (A : Account σ) : Engine.Use → Account σ
  | .load steps path | .render steps path _ => carryOn handle steps A (Load.begin A.engine.library path)

def after (handle : Handler σ) (A : Account σ) (uses : List Engine.Use) : Account σ :=
  uses.foldl (perform handle) A

/-! ### The account of what the engine does -/

theorem carryOn_done (steps : Nat) (outcome : Except Error Unit) :
    carryOn handle steps A (.done outcome) = A := by
  cases steps <;> rfl

theorem carryOn_zero (hw : load.Waiting) : carryOn handle 0 A load = A := by
  cases load with
  | done => exact hw.elim
  | _ => rfl

theorem carryOn_succ (steps : Nat) (hw : load.Waiting) :
    carryOn handle (steps + 1) A load = carryOn handle steps (A.turn handle load).1 (A.turn handle load).2 := by
  cases load with
  | done => exact hw.elim
  | _ => simp only [carryOn]

theorem run_carryOn (handle : Handler σ) (path : String) (steps : Nat) (A : Account σ) (load : Load) :
    ((Engine.carryOn path steps A.engine load).run handle A.surroundings).1.2 = (carryOn handle steps A load).engine ∧
    ((Engine.carryOn path steps A.engine load).run handle A.surroundings).2 =
      (carryOn handle steps A load).surroundings := by
  induction steps generalizing A load with
  | zero =>
    rcases load.waiting_or_done with hw | ⟨outcome, rfl⟩
    · rw [Engine.run_carryOn_zero hw, carryOn_zero hw]
      exact ⟨rfl, rfl⟩
    · rw [Engine.run_carryOn_done, carryOn_done]
      exact ⟨rfl, rfl⟩
  | succ steps ih =>
    rcases load.waiting_or_done with hw | ⟨outcome, rfl⟩
    · rw [Engine.run_carryOn_succ steps hw, carryOn_succ steps hw]
      exact ih (A.turn handle load).1 (A.turn handle load).2
    · rw [Engine.run_carryOn_done, carryOn_done]
      exact ⟨rfl, rfl⟩

theorem run_perform (handle : Handler σ) (A : Account σ) (use : Engine.Use) :
    (A.engine.perform use).run handle A.surroundings =
      ((A.perform handle use).engine, (A.perform handle use).surroundings) := by
  cases use with
  | load steps path =>
    obtain ⟨he, hs⟩ := run_carryOn handle path steps A (Load.begin A.engine.library path)
    simp only [Engine.perform, Engine.loadWithin, Action.run_do, Action.run_pure, perform]
    rw [he, hs]
  | render steps path data =>
    obtain ⟨he, hs⟩ := run_carryOn handle path steps A (Load.begin A.engine.library path)
    simp only [Engine.perform, Engine.renderWithin, Engine.loadWithin, Action.run_do, Action.run_pure, perform]
    rw [← he, ← hs]
    split <;> rfl

/-- An account does what its engine does. -/
theorem run_after (handle : Handler σ) (A : Account σ) (uses : List Engine.Use) :
    (A.engine.after uses).run handle A.surroundings =
      ((A.after handle uses).engine, (A.after handle uses).surroundings) := by
  induction uses generalizing A with
  | nil => rfl
  | cons use uses ih =>
    simp only [Engine.after, Action.run_do, run_perform]
    exact ih (A.perform handle use)

/-! ### What an account keeps -/

theorem keeps_carryOn (handle : Handler σ) (hpath : ¬ IsPlain path) (steps : Nat)
    (h : A.ledger.Keeps path A.engine.library load) :
    ∃ load', (carryOn handle steps A load).ledger.Keeps path (carryOn handle steps A load).engine.library load' := by
  induction steps generalizing A load with
  | zero =>
    rcases load.waiting_or_done with hw | ⟨outcome, rfl⟩
    · exact ⟨load, by rwa [carryOn_zero hw]⟩
    · exact ⟨_, by rwa [carryOn_done]⟩
  | succ steps ih =>
    rcases load.waiting_or_done with hw | ⟨outcome, rfl⟩
    · rw [carryOn_succ steps hw]
      refine ih ?_
      have hstep := h.step hpath (A.engine.site handle A.surroundings)
      rw [← Engine.turn_library, ← Engine.turn_load] at hstep
      exact hstep
    · exact ⟨_, by rwa [carryOn_done]⟩

theorem makes_perform (handle : Handler σ) (use : Engine.Use) (hpath : ¬ IsPlain use.template)
    (h : A.ledger.Makes A.engine.library) :
    (A.perform handle use).ledger.Makes (A.perform handle use).engine.library := by
  cases use with
  | load steps path =>
    obtain ⟨load', hk⟩ := keeps_carryOn handle hpath steps (h.begin path)
    exact hk.made
  | render steps path data =>
    obtain ⟨load', hk⟩ := keeps_carryOn handle hpath steps (h.begin path)
    exact hk.made

theorem makes_after (handle : Handler σ) (uses : List Engine.Use) (hp : ∀ use ∈ uses, ¬ IsPlain use.template)
    (h : A.ledger.Makes A.engine.library) :
    (A.after handle uses).ledger.Makes (A.after handle uses).engine.library := by
  induction uses generalizing A with
  | nil => exact h
  | cons use uses ih =>
    exact ih (fun u hu => hp u (.tail _ hu)) (makes_perform handle use (hp use List.mem_cons_self) h)

/-- **What is registered was built from what was given.** In whatever surroundings an engine is used, and wherever
a use is cut off: a partial that is loaded is registered with the source that was last given for it, what that
source refers to is loaded too, no loaded partial refers to itself through others, and the references of a complete
template are loaded. -/
theorem holds_after (handle : Handler σ) (cache : Cache.Current) (partialDir : String) (s : σ)
    (uses : List Engine.Use) (hp : ∀ use ∈ uses, ¬ IsPlain use.template) :
    let A := (Account.of (.of cache partialDir) s).after handle uses
    A.engine = (Engine.used handle cache partialDir s uses).1 ∧ A.ledger.Holds A.engine.library := by
  have hrun := run_after handle (Account.of (.of cache partialDir) s) uses
  have h : (Account.of (.of cache partialDir) s).ledger.Makes (Engine.of cache partialDir).library := ⟨.empty, nofun⟩
  exact ⟨(congrArg Prod.fst hrun).symm, (makes_after handle uses hp h).holds⟩

/-- A network with a template and the first of its two partials. -/
def secondMissing (address : String) : Except Fetch.Error Http.Response :=
  if address = "https://e.c/t/a.html" then .ok (.plain .ok (Text.bytes "\x7b\x7b>b\x7d\x7d\x7b\x7b>c\x7d\x7d"))
  else if address = "https://e.c/t/b.html" then .ok (.plain .ok (Text.bytes "X"))
  else .error (.unreachable address)

/-- A template that fails for its second partial leaves the first one. -/
theorem holds_after_failure :
    (∀ use ∈ [Engine.Use.load 9 "t/a.html"], ¬ IsPlain use.template) ∧
    ((Account.of (.of rootCache "t") ()).after (serving secondMissing) [.load 9 "t/a.html"]).engine.library.loaded =
      ["b"] ∧
    ((Account.of (.of rootCache "t") ()).after (serving secondMissing) [.load 9 "t/a.html"]).ledger.Holds
      ((Account.of (.of rootCache "t") ()).after (serving secondMissing) [.load 9 "t/a.html"]).engine.library := by
  have hp : ∀ use ∈ [Engine.Use.load 9 "t/a.html"], ¬ IsPlain use.template := by decide
  refine ⟨hp, ?_, (holds_after (serving secondMissing) rootCache "t" () _ hp).2⟩
  decide +kernel

end Account
end EdgeWorker.Template
