import EdgeWorker.Template.Load
import Mathlib.Logic.Relation

/-!
How a load works off its frames between two questions.

* `Library.Move` — one move that needs no answer: the template's own frame is left, a partial is registered, or a
  reference to a registered partial is passed over;
* `Library.Rests` — frames from which no move is left, and the progress they stand for;
* `settle_moves` — `Library.settle` is a row of moves up to a rest, so that what every move keeps holds there;
* `advance_induction`, `step_induction` — what may become of a load when it goes on, and in a step;
* `Covered` — the invariant of the frames: a reference in a source is registered, still to be followed, or is the
  one that is being followed.
-/

namespace EdgeWorker.Template

open Relation

/-! ### Moves -/

namespace Library

/-- One move of a load that needs no answer. -/
inductive Move : Library × List Frame → Library × List Frame → Prop
  | leave {l : Library} {source : String} {frames : List Frame} : Move (l, ⟨none, source, []⟩ :: frames) (l, frames)
  | register {l l' : Library} {name source : String} {frames : List Frame} :
      l.addPartial name source = .ok l' → Move (l, ⟨some name, source, []⟩ :: frames) (l', frames)
  | skip {l : Library} {owner : Option String} {source name : String} {pending : List String}
      {frames : List Frame} : name ∉ chainOf (⟨owner, source, pending⟩ :: frames) → name ∈ l.loaded →
      Move (l, ⟨owner, source, name :: pending⟩ :: frames) (l, ⟨owner, source, pending⟩ :: frames)

/-- Frames from which no move is left, and the progress that is made with them. -/
inductive Rests (l : Library) : List Frame → Progress → Prop
  | complete : Rests l [] .complete
  | malformed {name source : String} {frames : List Frame} {e : Error} : l.addPartial name source = .error e →
      Rests l (⟨some name, source, []⟩ :: frames) (.failed e)
  | cycle {owner : Option String} {source name : String} {pending : List String} {frames : List Frame} :
      name ∈ chainOf (⟨owner, source, pending⟩ :: frames) →
      Rests l (⟨owner, source, name :: pending⟩ :: frames)
        (.failed (.cycle (chainOf (⟨owner, source, pending⟩ :: frames) ++ [name])))
  | needs {owner : Option String} {source name : String} {pending : List String} {frames : List Frame} :
      name ∉ chainOf (⟨owner, source, pending⟩ :: frames) → name ∉ l.loaded →
      Rests l (⟨owner, source, name :: pending⟩ :: frames) (.needs name (⟨owner, source, pending⟩ :: frames))

end Library

variable {l l' : Library} {name source path : String} {owner awaited : Option String} {pending : List String}
  {frames frames' : List Frame}

/-! ### The library -/

namespace Library

theorem isLoaded_iff : l.isLoaded name = true ↔ name ∈ l.loaded := by simp [isLoaded]

theorem isCompiled_iff : l.isCompiled path = true ↔ path ∈ l.compiled := by simp [isCompiled]

theorem addPartial_eq_ok : l.addPartial name source = .ok l' ↔
    ∃ t, ofText? source = some t ∧ l' = ⟨l.registry.put name t, l.compiled, name :: l.loaded⟩ := by
  unfold addPartial
  cases ofText? source with
  | none => simp
  | some t => simp [eq_comm]

theorem addPartial_eq_error {e : Error} : l.addPartial name source = .error e ↔
    ofText? source = none ∧ e = .malformed name := by
  unfold addPartial
  cases ofText? source with
  | none => simp [eq_comm]
  | some t => simp

theorem addTemplate_eq_ok : l.addTemplate path source = .ok l' ↔
    ∃ t, ofText? source = some t ∧ l' = ⟨l.registry.put path t, path :: l.compiled, l.loaded⟩ := by
  unfold addTemplate
  cases ofText? source with
  | none => simp
  | some t => simp [eq_comm]

theorem addTemplate_eq_error {e : Error} : l.addTemplate path source = .error e ↔
    ofText? source = none ∧ e = .malformed path := by
  unfold addTemplate
  cases ofText? source with
  | none => simp [eq_comm]
  | some t => simp

end Library

/-! ### Chains of frames -/

@[simp] theorem chainOf_cons (f : Frame) (frames : List Frame) :
    chainOf (f :: frames) = chainOf frames ++ f.name.toList := by
  unfold chainOf
  rw [List.reverse_cons, List.filterMap_append]
  cases h : f.name <;> simp [h]

theorem mem_chainOf : name ∈ chainOf frames ↔ ∃ f ∈ frames, f.name = some name := by
  simp [chainOf, List.mem_filterMap]

theorem any_name_iff : (frames.any fun f => f.name = some name) = true ↔ name ∈ chainOf frames := by
  simp [mem_chainOf, List.any_eq_true]

/-! ### Settling -/

namespace Library

/-- Frames are settled by moves up to a rest. -/
theorem settle_moves (l : Library) (frames : List Frame) :
    ∃ rest, ReflTransGen Move (l, frames) ((l.settle frames).1, rest) ∧
      Rests (l.settle frames).1 rest (l.settle frames).2.2 := by
  fun_induction Library.settle l frames with
  | case1 l => exact ⟨[], .refl, .complete⟩
  | case2 l source frames ih =>
    obtain ⟨rest, hm, hr⟩ := ih
    exact ⟨rest, .head .leave hm, hr⟩
  | case3 l name source frames e h => exact ⟨_, .refl, .malformed h⟩
  | case4 l name source frames l' h l'' events progress heq ih =>
    simp only [heq] at ih
    obtain ⟨rest, hm, hr⟩ := ih
    exact ⟨rest, .head (.register h) hm, hr⟩
  | case5 l owner source name pending frames here h => exact ⟨_, .refl, .cycle (any_name_iff.1 h)⟩
  | case6 l owner source name pending frames here h hl ih =>
    obtain ⟨rest, hm, hr⟩ := ih
    exact ⟨rest, .head (.skip (mt any_name_iff.2 h) (isLoaded_iff.1 hl)) hm, hr⟩
  | case7 l owner source name pending frames here h hl =>
    exact ⟨_, .refl, .needs (mt any_name_iff.2 h) (mt isLoaded_iff.2 hl)⟩

/-- What every move keeps holds of the library and the frames that settling ends with. -/
theorem settle_invariant (I : Library → List Frame → Prop)
    (step : ∀ {l l' frames frames'}, Move (l, frames) (l', frames') → I l frames → I l' frames')
    (h : I l frames) :
    ∃ rest, I (l.settle frames).1 rest ∧ Rests (l.settle frames).1 rest (l.settle frames).2.2 := by
  obtain ⟨rest, hm, hr⟩ := settle_moves l frames
  refine ⟨rest, ?_, hr⟩
  suffices H : ∀ x y : Library × List Frame, ReflTransGen Move x y → I x.1 x.2 → I y.1 y.2 from H _ _ hm h
  intro x y hxy hx
  induction hxy with
  | refl => exact hx
  | tail _ hlast ih => exact step hlast ih

theorem Move.loaded_subset (h : Move (l, frames) (l', frames')) : l.loaded ⊆ l'.loaded := by
  cases h with
  | leave => exact fun _ h => h
  | register h =>
    obtain ⟨t, -, rfl⟩ := addPartial_eq_ok.1 h
    exact List.subset_cons_self _ _
  | skip => exact fun _ h => h

theorem Move.compiled_eq (h : Move (l, frames) (l', frames')) : l'.compiled = l.compiled := by
  cases h with
  | leave => rfl
  | register h => obtain ⟨t, -, rfl⟩ := addPartial_eq_ok.1 h; rfl
  | skip => rfl

end Library

/-! ### Steps -/

/-- Why a load fails when its frames have been settled: a source is malformed, or a partial includes itself. -/
inductive Error.IsInner : Error → Prop
  | malformed (name : String) : IsInner (.malformed name)
  | cycle (chain : List String) : IsInner (.cycle chain)

/-- What holds of every library and every load that settled frames may lead to holds when a load goes on. -/
theorem advance_induction {I : Library → List Frame → Prop} {P : Library → Load → Prop}
    (move : ∀ {l l' frames frames'}, Library.Move (l, frames) (l', frames') → I l frames → I l' frames')
    (start : I l frames)
    (complete : ∀ {l' l''}, I l' [] → l'.addTemplate path source = .ok l'' → P l'' (.done (.ok ())))
    (failed : ∀ {l' rest e}, I l' rest → e.IsInner → P l' (.done (.error e)))
    (needs : ∀ {l' owner text name pending rest}, I l' (⟨owner, text, name :: pending⟩ :: rest) →
      name ∉ chainOf (⟨owner, text, pending⟩ :: rest) → name ∉ l'.loaded →
      P l' (.atPart path source name (⟨owner, text, pending⟩ :: rest))) :
    P (Load.advance l path source frames).1 (Load.advance l path source frames).2.2 := by
  obtain ⟨rest, hI, hrests⟩ := Library.settle_invariant I move start
  unfold Load.advance
  rcases hset : l.settle frames with ⟨l', events, progress⟩
  simp only [hset] at hI hrests
  cases hrests with
  | complete =>
    dsimp only
    cases hadd : l'.addTemplate path source with
    | ok l'' => exact complete hI hadd
    | error e =>
      obtain ⟨-, rfl⟩ := Library.addTemplate_eq_error.1 hadd
      exact failed hI (.malformed path)
  | malformed hadd =>
    obtain ⟨-, rfl⟩ := Library.addPartial_eq_error.1 hadd
    exact failed hI (.malformed _)
  | cycle => exact failed hI (.cycle _)
  | needs hchain hloaded => exact needs hI hchain hloaded

/-- A load is given a source, and goes on with these frames. -/
inductive Load.Enters (site : Site) : Load → String → String → List Frame → Prop
  | cached {path source : String} : site.cached path = .ok (some source) →
      Enters site (.atCache path) path source [Frame.of none source]
  | fetched {path source : String} : site.fetched path = .ok source →
      Enters site (.atNetwork path) path source [Frame.of none source]
  | part {path source name text : String} {frames : List Frame} : site.fetched (site.partialPath name) = .ok text →
      Enters site (.atPart path source name frames) path source (Frame.of (some name) text :: frames)

/-- A load is given an error. -/
inductive Load.Denied (site : Site) : Load → Error → Prop
  | cached {path : String} {e : Error} : site.cached path = .error e → Denied site (.atCache path) e
  | fetched {path : String} {e : Error} : site.fetched path = .error e → Denied site (.atNetwork path) e
  | part {path source name : String} {frames : List Frame} {e : Error} :
      site.fetched (site.partialPath name) = .error e → Denied site (.atPart path source name frames) e

/-- What holds of a load that is done, of one that fails, of one that turns to the network, and of one that goes on, holds
after a step. -/
theorem step_induction {site : Site} {load : Load} {P : Library → Load → Prop}
    (done : ∀ {outcome}, load = .done outcome → P l load)
    (denied : ∀ {e}, load.Denied site e → P l (.done (.error e)))
    (missed : ∀ {path}, load = .atCache path → site.cached path = .ok none → P l (.atNetwork path))
    (enters : ∀ {path source frames}, load.Enters site path source frames →
      P (Load.advance l path source frames).1 (Load.advance l path source frames).2.2) :
    P (load.step site l).1 (load.step site l).2.2 := by
  cases load with
  | done outcome => exact done rfl
  | atCache path =>
    rw [Load.step]
    rcases hfound : site.cached path with e | _ | source
    · exact denied (.cached hfound)
    · exact missed rfl hfound
    · exact enters (.cached hfound)
  | atNetwork path =>
    rw [Load.step]
    rcases hsource : site.fetched path with e | source
    · exact denied (.fetched hsource)
    · exact enters (.fetched hsource)
  | atPart path source name frames =>
    rw [Load.step]
    rcases htext : site.fetched (site.partialPath name) with e | text
    · exact denied (.part htext)
    · exact enters (.part htext)

/-! ### What the references in the frames are -/

/-- Every reference in the source of a frame is registered, still to be followed, or is being followed: from the
innermost frame to `awaited`, from every other one to the frame inside it. -/
def Covered (l : Library) : Option String → List Frame → Prop
  | _, [] => True
  | awaited, f :: frames =>
    (∀ n ∈ partialNames f.source, n ∈ l.loaded ∨ n ∈ f.pending ∨ awaited = some n) ∧ Covered l f.name frames

theorem Covered.mono (hl : l.loaded ⊆ l'.loaded) (h : Covered l awaited frames) : Covered l' awaited frames := by
  induction frames generalizing awaited with
  | nil => trivial
  | cons f frames ih => exact ⟨fun n hn => (h.1 n hn).imp_left fun h => hl h, ih h.2⟩

/-- The partial that was followed is registered. -/
theorem Covered.arrive (h : Covered l (some name) frames) (hn : name ∈ l.loaded) : Covered l none frames := by
  cases frames with
  | nil => trivial
  | cons f frames =>
    refine ⟨fun n hn' => ?_, h.2⟩
    rcases h.1 n hn' with h | h | h
    · exact .inl h
    · exact .inr (.inl h)
    · cases h; exact .inl hn

/-- The next reference is followed. -/
theorem Covered.follow (h : Covered l none (⟨owner, source, name :: pending⟩ :: frames)) :
    Covered l (some name) (⟨owner, source, pending⟩ :: frames) := by
  refine ⟨fun n hn => ?_, h.2⟩
  rcases h.1 n hn with h | h | h
  · exact .inl h
  · rcases List.mem_cons.1 h with rfl | h
    · exact .inr (.inr rfl)
    · exact .inr (.inl h)
  · cases h

/-- A source is opened; none of its references has been followed. -/
theorem Covered.enter (text : String) (h : Covered l owner frames) : Covered l none (Frame.of owner text :: frames) :=
  ⟨fun _ hn => .inr (.inl hn), h⟩

theorem Covered.move (h : Library.Move (l, frames) (l', frames')) (hc : Covered l none frames) :
    Covered l' none frames' := by
  cases h with
  | leave => exact hc.2
  | register h =>
    have hm : Library.Move (l, ⟨some _, _, []⟩ :: frames') (l', frames') := .register h
    have hs := hm.loaded_subset
    obtain ⟨t, -, rfl⟩ := Library.addPartial_eq_ok.1 h
    exact (Covered.mono hs hc.2).arrive List.mem_cons_self
  | skip _ hl => exact hc.follow.arrive hl

/-- When nothing is left to be followed, all references are registered. -/
theorem Covered.loaded_of_done (h : Covered l none (⟨owner, source, []⟩ :: frames)) :
    ∀ n ∈ partialNames source, n ∈ l.loaded := by
  intro n hn
  rcases h.1 n hn with h | h | h
  · exact h
  · cases h
  · cases h

end EdgeWorker.Template
