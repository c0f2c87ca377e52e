import EdgeWorker.Proofs.Keyed
import EdgeWorker.Proofs.Template.Graph
import EdgeWorker.Proofs.Template.Reference
import EdgeWorker.Proofs.Template.Settle

/-!
How libraries come about, for given sources of partials (`texts`) and of templates (`sources`).

* `Library.Built` — the library was made by registrations, each of a source whose references were registered before;
* `Linked` — the invariant of the frames: each one holds the source of its name, and the one outside refers to it;
* `Load.Fits` — the invariant of a load that waits;
* `advance_kept` — a load that goes on keeps both, for whatever sources it was given.
-/

namespace EdgeWorker.Template

open Relation

variable {texts sources texts' sources' : Texts} {l l' : Library} {n name source path text : String}
  {owner : Option String} {pending : List String} {frames frames' : List Frame} {load : Load}

/-! ### Libraries -/

namespace Library

/-- A library that was made by registering sources whose references were registered before. -/
inductive Built (texts sources : Texts) : Library → Prop
  | empty : Built texts sources .empty
  | addPartial {l l' : Library} {name text : String} : Built texts sources l → IsPlain name → texts name = some text →
      (∀ n ∈ partialNames text, n ∈ l.loaded) → l.addPartial name text = .ok l' → Built texts sources l'
  | addTemplate {l l' : Library} {path source : String} : Built texts sources l → sources path = some source →
      (∀ n ∈ partialNames source, n ∈ l.loaded) → l.addTemplate path source = .ok l' → Built texts sources l'

/-- Only the sources of what is registered count. -/
theorem Built.congr (h : l.Built texts sources) (ht : ∀ n ∈ l.loaded, texts n = texts' n)
    (hs : ∀ p ∈ l.compiled, sources p = sources' p) : l.Built texts' sources' := by
  induction h with
  | empty => exact .empty
  | addPartial _ hp hn hl ha ih =>
    obtain ⟨t, -, rfl⟩ := addPartial_eq_ok.1 ha
    refine .addPartial (ih (fun n hn => ht n (.tail _ hn)) hs) hp ?_ hl ha
    rw [← ht _ List.mem_cons_self, hn]
  | addTemplate _ hp hl ha ih =>
    obtain ⟨t, -, rfl⟩ := addTemplate_eq_ok.1 ha
    refine .addTemplate (ih ht fun p hp => hs p (.tail _ hp)) ?_ hl ha
    rw [← hs _ List.mem_cons_self, hp]

/-- A registered partial is sound. -/
theorem Built.sound (h : l.Built texts sources) : ∀ n ∈ l.loaded, texts.Sound n := by
  induction h with
  | empty => intro n hn; cases hn
  | addPartial _ _ hn hl ha ih =>
    obtain ⟨t, hc, rfl⟩ := addPartial_eq_ok.1 ha
    intro n hm
    rcases List.mem_cons.1 hm with rfl | hm
    · exact .of hn (by rw [hc]; rfl) fun m hm => ih m (hl m hm)
    · exact ih n hm
  | addTemplate _ _ _ ha ih =>
    obtain ⟨t, -, rfl⟩ := addTemplate_eq_ok.1 ha
    exact ih

/-- What the source of a registered partial refers to is registered. -/
theorem Built.loaded_closed (h : l.Built texts sources) :
    ∀ n ∈ l.loaded, ∀ text, texts n = some text → ∀ m ∈ partialNames text, m ∈ l.loaded := by
  induction h with
  | empty => intro n hn; cases hn
  | @addPartial l _ name text _ _ hn hl ha ih =>
    obtain ⟨t, hc, rfl⟩ := addPartial_eq_ok.1 ha
    intro n hm text' ht m hmt
    rcases List.mem_cons.1 hm with rfl | hm
    · rw [hn] at ht
      cases ht
      exact .tail _ (hl m hmt)
    · exact .tail _ (ih n hm text' ht m hmt)
  | addTemplate _ _ _ ha ih =>
    obtain ⟨t, -, rfl⟩ := addTemplate_eq_ok.1 ha
    exact ih

theorem Built.loaded_plain (h : l.Built texts sources) : ∀ n ∈ l.loaded, IsPlain n := by
  induction h with
  | empty => intro n hn; cases hn
  | addPartial _ hp _ _ ha ih =>
    obtain ⟨t, -, rfl⟩ := addPartial_eq_ok.1 ha
    intro n hm
    rcases List.mem_cons.1 hm with rfl | hm
    · exact hp
    · exact ih n hm
  | addTemplate _ _ _ ha ih =>
    obtain ⟨t, -, rfl⟩ := addTemplate_eq_ok.1 ha
    exact ih

/-- A complete template has a source that can be compiled and refers to nothing but registered partials. -/
theorem Built.compiled (h : l.Built texts sources) : ∀ p ∈ l.compiled,
    ∃ source, sources p = some source ∧ (ofText? source).isSome ∧ ∀ n ∈ partialNames source, n ∈ l.loaded := by
  induction h with
  | empty => intro p hp; cases hp
  | addPartial _ _ _ _ ha ih =>
    obtain ⟨t, -, rfl⟩ := addPartial_eq_ok.1 ha
    intro p hp
    obtain ⟨source, hs, hc, hl⟩ := ih p hp
    exact ⟨source, hs, hc, fun n hn => .tail _ (hl n hn)⟩
  | addTemplate _ hs hl ha ih =>
    obtain ⟨t, hc, rfl⟩ := addTemplate_eq_ok.1 ha
    intro p hp
    rcases List.mem_cons.1 hp with rfl | hp
    · exact ⟨_, hs, by rw [hc]; rfl, hl⟩
    · exact ih p hp

/-- What a complete template reaches is registered. -/
theorem Built.reaches_loaded (h : l.Built texts sources) (hp : path ∈ l.compiled) (hs : sources path = some source)
    (hr : texts.Reaches source n) : n ∈ l.loaded := by
  obtain ⟨source', hs', -, hl⟩ := h.compiled path hp
  rw [hs] at hs'
  cases hs'
  obtain ⟨m, hm, hmn⟩ := hr
  induction hmn with
  | refl => exact hl m hm
  | tail _ hlast ih =>
    obtain ⟨text, ht, hn⟩ := hlast
    exact h.loaded_closed _ ih text ht _ hn

/-- No complete template has the name of a partial. -/
def Slashed (l : Library) : Prop := ∀ p ∈ l.compiled, ¬ IsPlain p

/-- What is found under a name, where no complete template has the name of a partial. -/
theorem Built.get?_eq (h : l.Built texts sources) (hp : l.Slashed) (n : String) :
    l.registry.get? n = if n ∈ l.loaded then (texts n).bind ofText?
      else if n ∈ l.compiled then (sources n).bind ofText? else none := by
  induction h with
  | empty => rfl
  | @addPartial l l' name text _ hplain hn _ ha ih =>
    obtain ⟨t, hc, rfl⟩ := addPartial_eq_ok.1 ha
    by_cases hm : n = name
    · subst hm
      simp [hn, hc]
    · simp only [Keyed.get?_put_of_ne _ _ hm, List.mem_cons, hm, false_or]
      exact ih hp
  | @addTemplate l l' path source hb hs _ ha ih =>
    obtain ⟨t, hc, rfl⟩ := addTemplate_eq_ok.1 ha
    by_cases hm : n = path
    · subst hm
      have hl : n ∉ l.loaded := fun hl => hp n List.mem_cons_self (hb.loaded_plain n hl)
      simp [hl, hs, hc]
    · simp only [Keyed.get?_put_of_ne _ _ hm, List.mem_cons, hm, false_or]
      exact ih fun p hp' => hp p (.tail _ hp')

end Library

/-! ### Frames -/

/-- Each frame holds the source of its name, which the source of the frame outside refers to and which no frame
outside has. The outermost frame is that of the template. -/
inductive Linked (texts : Texts) (source : String) : List Frame → Prop
  | nil : Linked texts source []
  | root {pending : List String} : pending ⊆ partialNames source → Linked texts source [⟨none, source, pending⟩]
  | inner {f : Frame} {frames : List Frame} {n text : String} {pending : List String} : n ∈ partialNames f.source →
      texts n = some text → n ∉ chainOf (f :: frames) → pending ⊆ partialNames text →
      Linked texts source (f :: frames) → Linked texts source (⟨some n, text, pending⟩ :: f :: frames)

theorem Linked.start (texts : Texts) (source : String) : Linked texts source [Frame.of none source] :=
  .root fun _ h => h

/-- The next reference is taken out. -/
theorem Linked.follow (h : Linked texts source (⟨owner, text, n :: pending⟩ :: frames)) :
    n ∈ partialNames text ∧ Linked texts source (⟨owner, text, pending⟩ :: frames) := by
  cases h with
  | root hp => exact ⟨hp List.mem_cons_self, .root fun _ h => hp (.tail _ h)⟩
  | inner hn ht hc hp hl => exact ⟨hp List.mem_cons_self, .inner hn ht hc (fun _ h => hp (.tail _ h)) hl⟩

theorem Linked.outer {f : Frame} (h : Linked texts source (f :: frames)) : Linked texts source frames := by
  cases h with
  | root => exact .nil
  | inner _ _ _ _ hl => exact hl

/-- The frames' names are a chain of references. -/
theorem Linked.isChain (h : Linked texts source frames) : texts.IsChain source (chainOf frames) := by
  induction h with
  | nil => exact Texts.isChain_nil texts source
  | root => exact Texts.isChain_nil texts source
  | @inner f frames n text pending hn ht _ _ hl ih =>
    rw [chainOf_cons]
    cases hl with
    | root => exact .singleton hn
    | inner _ ht' =>
      rw [chainOf_cons] at ih ⊢
      exact ih.concat ⟨_, ht', hn⟩

/-- A name in the source of the innermost frame continues the chain. -/
theorem Linked.isChain_concat {f : Frame} (h : Linked texts source (f :: frames)) (hn : n ∈ partialNames f.source) :
    texts.IsChain source (chainOf (f :: frames) ++ [n]) := by
  have hc := h.isChain
  cases h with
  | root => exact .singleton hn
  | inner _ ht =>
    rw [chainOf_cons] at hc ⊢
    exact hc.concat ⟨_, ht, hn⟩

theorem Linked.nodup (h : Linked texts source frames) : (chainOf frames).Nodup := by
  induction h with
  | nil => exact .nil
  | root => exact .nil
  | inner _ _ hc _ _ ih =>
    rw [chainOf_cons]
    refine List.nodup_append.2 ⟨ih, by simp, fun a ha b hb => ?_⟩
    obtain rfl := Option.some.inj (Option.mem_toList.1 hb)
    exact fun h => hc (h ▸ ha)

theorem Linked.move (h : Library.Move (l, frames) (l', frames')) (hl : Linked texts source frames) :
    Linked texts source frames' := by
  cases h with
  | leave => exact hl.outer
  | register => exact hl.outer
  | skip => exact hl.follow.2

/-- Only the sources of the frames' names count. -/
theorem Linked.congr (h : Linked texts source frames) (ht : ∀ n ∈ chainOf frames, texts n = texts' n) :
    Linked texts' source frames := by
  induction h with
  | nil => exact .nil
  | root hp => exact .root hp
  | inner hn htext hc hp _ ih =>
    refine .inner hn ?_ hc hp (ih fun n hm => ht n ?_)
    · rw [← ht _ (by simp), htext]
    · rw [chainOf_cons]; exact List.mem_append_left _ hm

/-! ### Loads -/

/-- Frames whose innermost one waits for the source of a name. -/
structure Waits (texts sources : Texts) (l : Library) (path source name : String) (frames : List Frame) : Prop where
  source_eq : sources path = some source
  linked : Linked texts source frames
  named : ∃ f ∈ frames.head?, name ∈ partialNames f.source
  fresh : name ∉ chainOf frames
  covered : Covered l (some name) frames

/-- A load that waits for a partial has frames that wait for it. -/
def Load.Fits (texts sources : Texts) (l : Library) : Load → Prop
  | .atPart path source name frames => Waits texts sources l path source name frames
  | _ => True

theorem Load.Fits.mono (h : load.Fits texts sources l) (hl : l.loaded ⊆ l'.loaded) :
    load.Fits texts sources l' := by
  cases load with
  | atPart path source name frames => exact ⟨h.1, h.2, h.3, h.4, h.5.mono hl⟩
  | _ => trivial

/-- The frames of a load under way; when none is left, all references of the template are registered. -/
structure UnderWay (texts sources : Texts) (source : String) (l : Library) (frames : List Frame) : Prop where
  built : l.Built texts sources
  linked : Linked texts source frames
  covered : Covered l none frames
  done : frames = [] → ∀ n ∈ partialNames source, n ∈ l.loaded

theorem UnderWay.move (h : Library.Move (l, frames) (l', frames')) (hu : UnderWay texts sources source l frames) :
    UnderWay texts sources source l' frames' := by
  obtain ⟨hb, hl, hc, -⟩ := hu
  refine ⟨?_, hl.move h, hc.move h, ?_⟩
  · cases h with
    | leave => exact hb
    | register ha =>
      cases hl with
      | inner hn ht => exact hb.addPartial (isPlain_of_mem_partialNames hn) ht hc.loaded_of_done ha
    | skip => exact hb
  · cases h with
    | leave =>
      intro _
      cases hl with
      | root => exact hc.loaded_of_done
    | register =>
      cases hl with
      | inner => intro h; cases h
    | skip => intro h; cases h

theorem UnderWay.start (hb : l.Built texts sources) : UnderWay texts sources source l [Frame.of none source] :=
  ⟨hb, .start texts source, ⟨fun _ hn => .inr (.inl hn), trivial⟩, fun h => by cases h⟩

/-- The source that was waited for is opened. -/
theorem Waits.enter (h : Waits texts sources l path source name frames) (hb : l.Built texts sources)
    (ht : texts name = some text) : UnderWay texts sources source l (Frame.of (some name) text :: frames) := by
  obtain ⟨f, hf, hn⟩ := h.named
  cases frames with
  | nil => cases hf
  | cons g frames =>
    cases hf
    exact ⟨hb, .inner hn ht h.fresh (fun _ h => h) h.linked, h.covered.enter text, fun h => by cases h⟩

/-- A load is of a path: it waits for it, has failed, or has completed its template. -/
def Load.IsOf (path : String) (l : Library) : Load → Prop
  | .atCache p | .atNetwork p | .atPart p _ _ _ => p = path
  | .done (.ok ()) => path ∈ l.compiled
  | .done (.error _) => True

theorem Load.IsOf.mono (h : load.IsOf path l) (hc : l.compiled ⊆ l'.compiled) : load.IsOf path l' := by
  match load with
  | .atCache _ | .atNetwork _ | .atPart _ _ _ _ => exact h
  | .done (.ok ()) => exact hc h
  | .done (.error _) => trivial

/-- A load does not wait for a registered partial. -/
def Load.IsNew (l : Library) : Load → Prop
  | .atPart _ _ name _ => name ∉ l.loaded
  | _ => True

def Load.Waiting : Load → Prop
  | .done _ => False
  | _ => True

theorem Load.waiting_or_done (load : Load) : load.Waiting ∨ ∃ outcome, load = .done outcome := by
  cases load with
  | done outcome => exact .inr ⟨outcome, rfl⟩
  | _ => exact .inl trivial

/-- What loads of a path leave of a library: it has only grown, by partials that the template of the path reaches and
by that template. -/
structure Library.Grown (texts sources : Texts) (path : String) (l l' : Library) : Prop where
  loaded : l.loaded ⊆ l'.loaded
  compiled : l.compiled ⊆ l'.compiled
  reached : ∀ n ∈ l'.loaded, n ∈ l.loaded ∨ ∃ source, sources path = some source ∧ texts.Reaches source n
  only : ∀ p ∈ l'.compiled, p ∈ l.compiled ∨ p = path

theorem Library.Grown.refl (texts sources : Texts) (path : String) (l : Library) : Grown texts sources path l l :=
  ⟨fun _ h => h, fun _ h => h, fun _ h => .inl h, fun _ h => .inl h⟩

theorem Library.Grown.trans {l'' : Library} (h : Grown texts sources path l l')
    (h' : Grown texts sources path l' l'') : Grown texts sources path l l'' := by
  refine ⟨fun _ hn => h'.loaded (h.loaded hn), fun _ hp => h'.compiled (h.compiled hp), fun n hn => ?_,
    fun p hp => ?_⟩
  · exact (h'.reached n hn).elim (h.reached n) .inr
  · exact (h'.only p hp).elim (h.only p) .inr

theorem Library.Slashed.grown (h : l.Slashed) (hp : ¬ IsPlain path) (hg : l.Grown texts sources path l') :
    l'.Slashed := by
  intro p hp'
  rcases hg.only p hp' with hp' | rfl
  · exact h p hp'
  · exact hp

theorem Library.Move.grown (h : Move (l, frames) (l', frames')) (hl : Linked texts source frames)
    (hs : sources path = some source) : Grown texts sources path l l' := by
  cases h with
  | leave => exact .refl _ _ _ _
  | @register _ _ name text _ h =>
    have hr : texts.Reaches source name := hl.isChain.reaches (by simp)
    obtain ⟨t, -, rfl⟩ := addPartial_eq_ok.1 h
    refine ⟨List.subset_cons_self _ _, fun _ h => h, fun n hn => ?_, fun _ h => .inl h⟩
    rcases List.mem_cons.1 hn with rfl | hn
    · exact .inr ⟨source, hs, hr⟩
    · exact .inl hn
  | skip => exact .refl _ _ _ _

/-- What a load of a path has kept when it waits again or is done: the library is built, and it has only grown. -/
structure Kept (texts sources : Texts) (path : String) (l l' : Library) (load : Load) : Prop where
  built : l'.Built texts sources
  fits : load.Fits texts sources l'
  isOf : load.IsOf path l'
  isNew : load.IsNew l'
  grown : l.Grown texts sources path l'
  early : load.Waiting → l'.compiled = l.compiled

theorem addTemplate_grown (ha : l.addTemplate path source = .ok l') : l.Grown texts sources path l' := by
  obtain ⟨t, -, rfl⟩ := Library.addTemplate_eq_ok.1 ha
  refine ⟨fun _ h => h, List.subset_cons_self _ _, fun _ h => .inl h, fun p hp => ?_⟩
  rcases List.mem_cons.1 hp with rfl | hp
  · exact .inr rfl
  · exact .inl hp

theorem advance_kept (hs : sources path = some source) (h : UnderWay texts sources source l frames) :
    Kept texts sources path l (Load.advance l path source frames).1 (Load.advance l path source frames).2.2 := by
  refine advance_induction (I := fun l' rest => UnderWay texts sources source l' rest ∧
    l.Grown texts sources path l' ∧ l'.compiled = l.compiled) (P := Kept texts sources path l)
    ?_ ⟨h, .refl _ _ _ _, rfl⟩ ?_ ?_ ?_
  · rintro l₁ l₂ frames₁ frames₂ hm ⟨hu, hg, hc⟩
    exact ⟨hu.move hm, hg.trans (hm.grown hu.linked hs), hm.compiled_eq.trans hc⟩
  · rintro l' l'' ⟨⟨hb, -, -, hd⟩, hg, -⟩ ha
    have hp : path ∈ l''.compiled := by
      obtain ⟨t, -, rfl⟩ := Library.addTemplate_eq_ok.1 ha
      exact List.mem_cons_self
    exact ⟨hb.addTemplate hs (hd rfl) ha, trivial, hp, trivial, hg.trans (addTemplate_grown ha), fun hw => hw.elim⟩
  · rintro l' rest e ⟨⟨hb, -, -, -⟩, hg, he⟩ -
    exact ⟨hb, trivial, trivial, trivial, hg, fun _ => he⟩
  · rintro l' owner text name pending rest ⟨⟨hb, hl, hc, -⟩, hg, he⟩ hn hnew
    exact ⟨hb, ⟨hs, hl.follow.2, ⟨_, rfl, hl.follow.1⟩, hn, hc.follow⟩, rfl, hnew, hg, fun _ => he⟩

/-- A load that is given no source leaves the library alone. -/
theorem Kept.unchanged (hb : l.Built texts sources) (hf : load.Fits texts sources l) (hp : load.IsOf path l)
    (hn : load.IsNew l) : Kept texts sources path l l load :=
  ⟨hb, hf, hp, hn, .refl _ _ _ _, fun _ => rfl⟩

/-- The sources are those that a site gives to a load. -/
def Load.Told (site : Site) (texts sources : Texts) : Load → Prop
  | .atCache path => ∀ source, site.cached path = .ok (some source) → sources path = some source
  | .atNetwork path => ∀ source, site.fetched path = .ok source → sources path = some source
  | .atPart _ _ name _ => ∀ text, site.fetched (site.partialPath name) = .ok text → texts name = some text
  | .done _ => True

/-- A step of a load keeps the library built and the load fitting. -/
theorem step_kept {site : Site} (hb : l.Built texts sources) (hf : load.Fits texts sources l) (hp : load.IsOf path l)
    (ht : load.Told site texts sources) :
    Kept texts sources path l (load.step site l).1 (load.step site l).2.2 := by
  refine step_induction (P := Kept texts sources path l) ?_ ?_ ?_ ?_
  · rintro outcome rfl
    exact .unchanged hb trivial hp trivial
  · exact fun _ => .unchanged hb trivial trivial trivial
  · rintro p rfl -
    exact .unchanged hb trivial hp trivial
  · intro p source frames henters
    obtain rfl : p = path := by cases henters <;> exact hp
    cases henters with
    | cached hc => exact advance_kept (ht _ hc) (.start hb)
    | fetched hc => exact advance_kept (ht _ hc) (.start hb)
    | part hc => exact advance_kept hf.source_eq (hf.enter hb (ht _ hc))

end EdgeWorker.Template
