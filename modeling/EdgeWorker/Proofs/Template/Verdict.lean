import EdgeWorker.Proofs.Template.Built

/-!
The outcome of loads over a site that does not change.

* `Ends site k frames outcome` — followed without any partial being registered before, the frames need `k` sources of
  partials and end in the outcome. It does not mention a library;
* `Texts.Sound.ends_iff` — to pass over a sound partial changes nothing but the number of sources that are needed;
* `Concludes site k load outcome` — the same of a load, with its `k` answers;
* `step_precedes` — a step of a load over any library that was built for the site takes the load closer to the outcome
  that it had before;
* `Pursues` — the invariant that follows: a load has the verdict of the site on its path. So the outcome does not
  depend on what is registered, nor on when it was.
-/

namespace EdgeWorker.Template

open Relation

namespace Site

def textOf (site : Site) (name : String) : Except Error String := site.fetched (site.partialPath name)

/-- The source of a template: from the cache, or else from the network. -/
def sourceOf (site : Site) (path : String) : Except Error String :=
  match site.cached path with
  | .error e => .error e
  | .ok (some source) => .ok source
  | .ok none => site.fetched path

def texts (site : Site) : Texts := fun name => (site.textOf name).toOption

def sources (site : Site) : Texts := fun path => (site.sourceOf path).toOption

end Site

variable {site : Site} {k j : Nat} {l l' : Library} {n name source path text : String} {owner : Option String}
  {pending : List String} {frames frames' : List Frame} {outcome outcome' : Except Error Unit} {load : Load}

theorem toOption_eq_some {α : Type} {r : Except Error α} {a : α} : r.toOption = some a ↔ r = .ok a := by
  cases r <;> simp [Except.toOption]

theorem texts_eq_some : site.texts n = some text ↔ site.textOf n = .ok text := toOption_eq_some

theorem sources_eq_some : site.sources path = some source ↔ site.sourceOf path = .ok source := toOption_eq_some

/-! ### The outcome of frames -/

/-- Frames that need so many sources of partials and end in an outcome, if every reference is followed. -/
inductive Ends (site : Site) : Nat → List Frame → Except Error Unit → Prop
  | complete : Ends site 0 [] (.ok ())
  | leave {k : Nat} {source : String} {frames : List Frame} {outcome : Except Error Unit} :
      Ends site k frames outcome → Ends site k (⟨none, source, []⟩ :: frames) outcome
  | malformed {name source : String} {frames : List Frame} : ofText? source = none →
      Ends site 0 (⟨some name, source, []⟩ :: frames) (.error (.malformed name))
  | register {k : Nat} {name source : String} {frames : List Frame} {outcome : Except Error Unit} :
      (ofText? source).isSome → Ends site k frames outcome → Ends site k (⟨some name, source, []⟩ :: frames) outcome
  | cycle {owner : Option String} {source name : String} {pending : List String} {frames : List Frame} :
      name ∈ chainOf (⟨owner, source, pending⟩ :: frames) →
      Ends site 0 (⟨owner, source, name :: pending⟩ :: frames)
        (.error (.cycle (chainOf (⟨owner, source, pending⟩ :: frames) ++ [name])))
  | lost {owner : Option String} {source name : String} {pending : List String} {frames : List Frame} {e : Error} :
      name ∉ chainOf (⟨owner, source, pending⟩ :: frames) → site.textOf name = .error e →
      Ends site 1 (⟨owner, source, name :: pending⟩ :: frames) (.error e)
  | follow {k : Nat} {owner : Option String} {source name text : String} {pending : List String}
      {frames : List Frame} {outcome : Except Error Unit} :
      name ∉ chainOf (⟨owner, source, pending⟩ :: frames) → site.textOf name = .ok text →
      Ends site k (Frame.of (some name) text :: ⟨owner, source, pending⟩ :: frames) outcome →
      Ends site (k + 1) (⟨owner, source, name :: pending⟩ :: frames) outcome

theorem ends_nil : Ends site k [] outcome ↔ k = 0 ∧ outcome = .ok () := by
  constructor
  · rintro ⟨⟩; exact ⟨rfl, rfl⟩
  · rintro ⟨rfl, rfl⟩; exact .complete

theorem ends_leave : Ends site k (⟨none, source, []⟩ :: frames) outcome ↔ Ends site k frames outcome := by
  constructor
  · rintro ⟨⟩; assumption
  · exact .leave

theorem ends_register (hc : (ofText? source).isSome) :
    Ends site k (⟨some name, source, []⟩ :: frames) outcome ↔ Ends site k frames outcome := by
  constructor
  · intro h
    cases h with
    | malformed hn => rw [hn] at hc; cases hc
    | register _ h => exact h
  · exact .register hc

theorem ends_malformed (hn : ofText? source = none) :
    Ends site k (⟨some name, source, []⟩ :: frames) outcome ↔ k = 0 ∧ outcome = .error (.malformed name) := by
  constructor
  · intro h
    cases h with
    | malformed => exact ⟨rfl, rfl⟩
    | register hc => rw [hn] at hc; cases hc
  · rintro ⟨rfl, rfl⟩; exact .malformed hn

theorem ends_cycle (hm : name ∈ chainOf (⟨owner, source, pending⟩ :: frames)) :
    Ends site k (⟨owner, source, name :: pending⟩ :: frames) outcome ↔
      k = 0 ∧ outcome = .error (.cycle (chainOf (⟨owner, source, pending⟩ :: frames) ++ [name])) := by
  constructor
  · intro h
    cases h with
    | cycle => exact ⟨rfl, rfl⟩
    | lost hn => exact absurd hm hn
    | follow hn => exact absurd hm hn
  · rintro ⟨rfl, rfl⟩; exact .cycle hm

theorem ends_lost {e : Error} (hm : name ∉ chainOf (⟨owner, source, pending⟩ :: frames))
    (he : site.textOf name = .error e) :
    Ends site k (⟨owner, source, name :: pending⟩ :: frames) outcome ↔ k = 1 ∧ outcome = .error e := by
  constructor
  · intro h
    cases h with
    | cycle hn => exact absurd hn hm
    | lost _ he' => rw [he] at he'; cases he'; exact ⟨rfl, rfl⟩
    | follow _ ht => rw [he] at ht; cases ht
  · rintro ⟨rfl, rfl⟩; exact .lost hm he

theorem ends_follow (hm : name ∉ chainOf (⟨owner, source, pending⟩ :: frames)) (ht : site.textOf name = .ok text) :
    Ends site k (⟨owner, source, name :: pending⟩ :: frames) outcome ↔
      ∃ j, k = 1 + j ∧ Ends site j (Frame.of (some name) text :: ⟨owner, source, pending⟩ :: frames) outcome := by
  constructor
  · intro h
    cases h with
    | cycle hn => exact absurd hn hm
    | lost _ he => rw [ht] at he; cases he
    | follow _ ht' h => rw [ht] at ht'; cases ht'; exact ⟨_, Nat.add_comm _ _, h⟩
  · rintro ⟨j, rfl, h⟩
    rw [Nat.add_comm]
    exact .follow hm ht h

/-- Frames have one outcome, and need one number of sources. -/
theorem Ends.unique (h : Ends site k frames outcome) (h' : Ends site j frames outcome') :
    k = j ∧ outcome = outcome' := by
  induction h generalizing j with
  | complete => obtain ⟨rfl, rfl⟩ := ends_nil.1 h'; exact ⟨rfl, rfl⟩
  | leave _ ih => exact ih (ends_leave.1 h')
  | malformed hn => obtain ⟨rfl, rfl⟩ := (ends_malformed hn).1 h'; exact ⟨rfl, rfl⟩
  | register hc _ ih => exact ih ((ends_register hc).1 h')
  | cycle hm => obtain ⟨rfl, rfl⟩ := (ends_cycle hm).1 h'; exact ⟨rfl, rfl⟩
  | lost hm he => obtain ⟨rfl, rfl⟩ := (ends_lost hm he).1 h'; exact ⟨rfl, rfl⟩
  | follow hm ht _ ih =>
    obtain ⟨i, rfl, hi⟩ := (ends_follow hm ht).1 h'
    obtain ⟨rfl, rfl⟩ := ih hi
    exact ⟨Nat.add_comm _ _, rfl⟩

/-! ### Sound partials are passed over -/

/-- The outcomes of some frames are those of others that need `c` sources less. -/
def EndsAfter (site : Site) (c : Nat) (frames frames' : List Frame) : Prop :=
  ∀ k outcome, Ends site k frames outcome ↔ ∃ j, k = c + j ∧ Ends site j frames' outcome

theorem EndsAfter.of_iff (h : ∀ k outcome, Ends site k frames outcome ↔ Ends site k frames' outcome) :
    EndsAfter site 0 frames frames' := by
  intro k outcome
  rw [h]
  constructor
  · exact fun h => ⟨k, (Nat.zero_add k).symm, h⟩
  · rintro ⟨j, rfl, h⟩; rwa [Nat.zero_add]

theorem EndsAfter.trans {c d : Nat} {frames'' : List Frame} (h : EndsAfter site c frames frames')
    (h' : EndsAfter site d frames' frames'') : EndsAfter site (c + d) frames frames'' := by
  intro k outcome
  rw [h]
  constructor
  · rintro ⟨j, rfl, hj⟩
    obtain ⟨i, rfl, hi⟩ := (h' _ _).1 hj
    exact ⟨i, (Nat.add_assoc _ _ _).symm, hi⟩
  · rintro ⟨i, rfl, hi⟩
    exact ⟨d + i, Nat.add_assoc _ _ _, (h' _ _).2 ⟨i, rfl, hi⟩⟩

/-- A sound name that is referred to next is on no frame. -/
theorem Linked.not_mem_of_sound {texts : Texts} (h : Linked texts source (⟨owner, text, n :: pending⟩ :: frames))
    (hs : texts.Sound n) : n ∉ chainOf (⟨owner, text, pending⟩ :: frames) := by
  intro hn
  obtain ⟨hm, hl⟩ := h.follow
  exact hs.not_transGen ((hl.isChain_concat hm).transGen_of_mem hn)

/-- **A sound partial changes nothing.** Whether it is followed or passed over, the frames have the same outcome. -/
theorem Texts.Sound.ends_iff (hs : site.texts.Sound n) :
    ∀ {owner text pending frames}, Linked site.texts source (⟨owner, text, n :: pending⟩ :: frames) →
      ∃ c, EndsAfter site c (⟨owner, text, n :: pending⟩ :: frames) (⟨owner, text, pending⟩ :: frames) := by
  induction hs with
  | @of n inner ht hc hsub ih =>
    intro owner text pending frames hl
    have hn := hl.not_mem_of_sound (.of ht hc hsub)
    obtain ⟨hm, hl'⟩ := hl.follow
    -- the frame of the partial is worked off reference by reference, each of which is sound again
    have work : ∀ names ⊆ partialNames inner,
        ∃ c, EndsAfter site c (⟨some n, inner, names⟩ :: ⟨owner, text, pending⟩ :: frames)
          (⟨owner, text, pending⟩ :: frames) := by
      intro names
      induction names with
      | nil => exact fun _ => ⟨0, .of_iff fun k outcome => ends_register hc⟩
      | cons m names ihn =>
        intro hsub'
        obtain ⟨c, hcm⟩ := ih m (hsub' List.mem_cons_self) (.inner hm ht hn hsub' hl')
        obtain ⟨d, hd⟩ := ihn fun x hx => hsub' (.tail _ hx)
        exact ⟨c + d, hcm.trans hd⟩
    obtain ⟨c, hwork⟩ := work (partialNames inner) fun _ h => h
    have hopen : EndsAfter site 1 (⟨owner, text, n :: pending⟩ :: frames)
        (Frame.of (some n) inner :: ⟨owner, text, pending⟩ :: frames) :=
      fun k outcome => ends_follow hn (texts_eq_some.1 ht)
    exact ⟨1 + c, hopen.trans hwork⟩

/-- A move does not change the outcome. -/
theorem endsAfter_of_move (hm : Library.Move (l, frames) (l', frames'))
    (hu : UnderWay site.texts site.sources source l frames) : ∃ c, EndsAfter site c frames frames' := by
  cases hm with
  | leave => exact ⟨0, .of_iff fun _ _ => ends_leave⟩
  | register ha =>
    obtain ⟨t, hc, -⟩ := Library.addPartial_eq_ok.1 ha
    exact ⟨0, .of_iff fun _ _ => ends_register (by rw [hc]; rfl)⟩
  | skip _ hl => exact (hu.built.sound _ hl).ends_iff hu.linked

/-! ### The outcome of loads -/

/-- The outcome of a load whose frames have ended: its own source has to be that of a template. -/
def compiledOr (path source : String) : Except Error Unit → Except Error Unit
  | .error e => .error e
  | .ok () => if (ofText? source).isSome then .ok () else .error (.malformed path)

/-- A load that needs so many answers and has an outcome, if every reference is followed. -/
inductive Concludes (site : Site) : Nat → Load → Except Error Unit → Prop
  | done {outcome : Except Error Unit} : Concludes site 0 (.done outcome) outcome
  | cacheFailed {path : String} {e : Error} : site.cached path = .error e →
      Concludes site 1 (.atCache path) (.error e)
  | uncached {k : Nat} {path : String} {outcome : Except Error Unit} : site.cached path = .ok none →
      Concludes site k (.atNetwork path) outcome → Concludes site (1 + k) (.atCache path) outcome
  | cached {k : Nat} {path source : String} {outcome : Except Error Unit} : site.cached path = .ok (some source) →
      Ends site k [Frame.of none source] outcome →
      Concludes site (1 + k) (.atCache path) (compiledOr path source outcome)
  | unreachable {path : String} {e : Error} : site.fetched path = .error e →
      Concludes site 1 (.atNetwork path) (.error e)
  | fetched {k : Nat} {path source : String} {outcome : Except Error Unit} : site.fetched path = .ok source →
      Ends site k [Frame.of none source] outcome →
      Concludes site (1 + k) (.atNetwork path) (compiledOr path source outcome)
  | lost {path source name : String} {frames : List Frame} {e : Error} : site.textOf name = .error e →
      Concludes site 1 (.atPart path source name frames) (.error e)
  | follow {k : Nat} {path source name text : String} {frames : List Frame} {outcome : Except Error Unit} :
      site.textOf name = .ok text → Ends site k (Frame.of (some name) text :: frames) outcome →
      Concludes site (1 + k) (.atPart path source name frames) (compiledOr path source outcome)

/-- The frames of a load need so many sources, and make it end in an outcome. -/
def Leads (site : Site) (k : Nat) (path source : String) (frames : List Frame) (outcome : Except Error Unit) : Prop :=
  ∃ ended, Ends site k frames ended ∧ outcome = compiledOr path source ended

theorem concludes_done : Concludes site k (.done outcome') outcome ↔ k = 0 ∧ outcome = outcome' := by
  constructor
  · rintro ⟨⟩; exact ⟨rfl, rfl⟩
  · rintro ⟨rfl, rfl⟩; exact .done

/-- A load that needs no answer is done. -/
theorem Concludes.eq_done (h : Concludes site k load outcome) (hk : k = 0) : load = .done outcome := by
  cases h with
  | done => rfl
  | _ => omega

theorem concludes_cacheFailed {e : Error} (h : site.cached path = .error e) :
    Concludes site k (.atCache path) outcome ↔ k = 1 ∧ outcome = .error e := by
  constructor
  · intro hk
    cases hk with
    | cacheFailed h' => rw [h] at h'; cases h'; exact ⟨rfl, rfl⟩
    | uncached h' => rw [h] at h'; cases h'
    | cached h' => rw [h] at h'; cases h'
  · rintro ⟨rfl, rfl⟩; exact .cacheFailed h

theorem concludes_uncached (h : site.cached path = .ok none) :
    Concludes site k (.atCache path) outcome ↔ ∃ j, k = 1 + j ∧ Concludes site j (.atNetwork path) outcome := by
  constructor
  · intro hk
    cases hk with
    | cacheFailed h' => rw [h] at h'; cases h'
    | uncached _ hk => exact ⟨_, rfl, hk⟩
    | cached h' => rw [h] at h'; cases h'
  · rintro ⟨j, rfl, hj⟩; exact .uncached h hj

theorem concludes_cached (h : site.cached path = .ok (some source)) :
    Concludes site k (.atCache path) outcome ↔
      ∃ j, k = 1 + j ∧ Leads site j path source [Frame.of none source] outcome := by
  constructor
  · intro hk
    cases hk with
    | cacheFailed h' => rw [h] at h'; cases h'
    | uncached h' => rw [h] at h'; cases h'
    | cached h' he => rw [h] at h'; cases h'; exact ⟨_, rfl, _, he, rfl⟩
  · rintro ⟨j, rfl, ended, he, rfl⟩; exact .cached h he

theorem concludes_unreachable {e : Error} (h : site.fetched path = .error e) :
    Concludes site k (.atNetwork path) outcome ↔ k = 1 ∧ outcome = .error e := by
  constructor
  · intro hk
    cases hk with
    | unreachable h' => rw [h] at h'; cases h'; exact ⟨rfl, rfl⟩
    | fetched h' => rw [h] at h'; cases h'
  · rintro ⟨rfl, rfl⟩; exact .unreachable h

theorem concludes_fetched (h : site.fetched path = .ok source) :
    Concludes site k (.atNetwork path) outcome ↔
      ∃ j, k = 1 + j ∧ Leads site j path source [Frame.of none source] outcome := by
  constructor
  · intro hk
    cases hk with
    | unreachable h' => rw [h] at h'; cases h'
    | fetched h' he => rw [h] at h'; cases h'; exact ⟨_, rfl, _, he, rfl⟩
  · rintro ⟨j, rfl, ended, he, rfl⟩; exact .fetched h he

theorem concludes_lost {e : Error} (h : site.textOf name = .error e) :
    Concludes site k (.atPart path source name frames) outcome ↔ k = 1 ∧ outcome = .error e := by
  constructor
  · intro hk
    cases hk with
    | lost h' => rw [h] at h'; cases h'; exact ⟨rfl, rfl⟩
    | follow h' => rw [h] at h'; cases h'
  · rintro ⟨rfl, rfl⟩; exact .lost h

theorem concludes_follow (h : site.textOf name = .ok text) :
    Concludes site k (.atPart path source name frames) outcome ↔
      ∃ j, k = 1 + j ∧ Leads site j path source (Frame.of (some name) text :: frames) outcome := by
  constructor
  · intro hk
    cases hk with
    | lost h' => rw [h] at h'; cases h'
    | follow h' he => rw [h] at h'; cases h'; exact ⟨_, rfl, _, he, rfl⟩
  · rintro ⟨j, rfl, ended, he, rfl⟩; exact .follow h he

/-- To wait for a partial is to have its reference before one. -/
theorem concludes_atPart (hn : name ∉ chainOf (⟨owner, text, pending⟩ :: frames)) :
    Concludes site k (.atPart path source name (⟨owner, text, pending⟩ :: frames)) outcome ↔
      Leads site k path source (⟨owner, text, name :: pending⟩ :: frames) outcome := by
  unfold Leads
  cases ht : site.textOf name with
  | error e =>
    rw [concludes_lost ht]
    simp only [ends_lost hn ht]
    constructor
    · rintro ⟨rfl, rfl⟩; exact ⟨_, ⟨rfl, rfl⟩, rfl⟩
    · rintro ⟨_, ⟨rfl, rfl⟩, rfl⟩; exact ⟨rfl, rfl⟩
  | ok inner =>
    rw [concludes_follow ht]
    simp only [ends_follow hn ht]
    constructor
    · rintro ⟨j, rfl, ended, he, rfl⟩; exact ⟨ended, ⟨j, rfl, he⟩, rfl⟩
    · rintro ⟨ended, ⟨j, rfl, he⟩, rfl⟩; exact ⟨j, rfl, ended, he, rfl⟩

/-- The outcomes that frames lead to are those of a load that needs `c` answers less. -/
def LeadsTo (site : Site) (c : Nat) (path source : String) (frames : List Frame) (load : Load) : Prop :=
  ∀ k outcome, Leads site k path source frames outcome ↔ ∃ j, k = c + j ∧ Concludes site j load outcome

theorem EndsAfter.leads {c : Nat} (h : EndsAfter site c frames frames') :
    Leads site k path source frames outcome ↔ ∃ j, k = c + j ∧ Leads site j path source frames' outcome := by
  constructor
  · rintro ⟨ended, he, rfl⟩
    obtain ⟨j, rfl, hj⟩ := (h _ _).1 he
    exact ⟨j, rfl, ended, hj, rfl⟩
  · rintro ⟨j, rfl, ended, he, rfl⟩
    exact ⟨ended, (h _ _).2 ⟨j, rfl, he⟩, rfl⟩

theorem settle_endsAfter (hu : UnderWay site.texts site.sources source l frames) :
    ∃ rest, (UnderWay site.texts site.sources source (l.settle frames).1 rest ∧
      ∃ c, EndsAfter site c frames rest) ∧ (l.settle frames).1.Rests rest (l.settle frames).2.2 := by
  refine Library.settle_invariant (fun l' rest =>
    UnderWay site.texts site.sources source l' rest ∧ ∃ c, EndsAfter site c frames rest) ?_
    ⟨hu, 0, .of_iff fun _ _ => Iff.rfl⟩
  rintro l₁ l₂ frames₁ frames₂ hm ⟨hu, c, hc⟩
  obtain ⟨d, hd⟩ := endsAfter_of_move hm hu
  exact ⟨hu.move hm, c + d, hc.trans hd⟩

/-- A load that goes on has the outcome that its frames lead to. -/
theorem advance_leadsTo (hu : UnderWay site.texts site.sources source l frames) :
    ∃ c, LeadsTo site c path source frames (Load.advance l path source frames).2.2 := by
  obtain ⟨rest, ⟨-, c, hc⟩, hr⟩ := settle_endsAfter hu
  refine ⟨c, fun k outcome => ?_⟩
  rw [hc.leads]
  refine exists_congr fun j => and_congr_right fun _ => ?_
  unfold Load.advance Leads
  rcases hset : l.settle frames with ⟨l', events, progress⟩
  rw [hset] at hr
  cases hr with
  | complete =>
    simp only [ends_nil]
    cases ha : l'.addTemplate path source with
    | error e =>
      obtain ⟨hn, rfl⟩ := Library.addTemplate_eq_error.1 ha
      rw [concludes_done]
      simp [compiledOr, hn]
    | ok l'' =>
      obtain ⟨t, ht, -⟩ := Library.addTemplate_eq_ok.1 ha
      rw [concludes_done]
      simp [compiledOr, ht]
  | malformed ha =>
    obtain ⟨hn, rfl⟩ := Library.addPartial_eq_error.1 ha
    rw [concludes_done]
    simp [ends_malformed hn, compiledOr]
  | cycle hm =>
    rw [concludes_done]
    simp [ends_cycle hm, compiledOr]
  | needs hn =>
    rw [concludes_atPart hn]
    rfl

/-! ### Steps -/

/-- A load that waits for the network was not answered by the cache. -/
def Load.Missed (site : Site) : Load → Prop
  | .atNetwork path => site.cached path = .ok none
  | _ => True

theorem told_of_missed (hm : load.Missed site) : load.Told site site.texts site.sources := by
  cases load with
  | done => trivial
  | atCache path =>
    intro source hc
    rw [sources_eq_some, Site.sourceOf, hc]
  | atNetwork path =>
    intro source hc
    rw [sources_eq_some, Site.sourceOf, hm, hc]
  | atPart => exact fun text ht => texts_eq_some.2 ht

/-- The outcomes of a load are those of another one that needs at least one answer less. -/
def Precedes (site : Site) (load load' : Load) : Prop :=
  ∃ c, ∀ k outcome, Concludes site k load outcome ↔ ∃ j, k = 1 + c + j ∧ Concludes site j load' outcome

theorem precedes_failed {e : Error}
    (h : ∀ k outcome, Concludes site k load outcome ↔ k = 1 ∧ outcome = .error e) :
    Precedes site load (.done (.error e)) := by
  refine ⟨0, fun k outcome => ?_⟩
  rw [h]
  simp [concludes_done]

theorem precedes_answered {load' : Load} (hl : ∃ c, LeadsTo site c path source frames load')
    (h : ∀ k outcome, Concludes site k load outcome ↔ ∃ j, k = 1 + j ∧ Leads site j path source frames outcome) :
    Precedes site load load' := by
  obtain ⟨c, hc⟩ := hl
  refine ⟨c, fun k outcome => ?_⟩
  rw [h]
  constructor
  · rintro ⟨j, rfl, hj⟩
    obtain ⟨i, rfl, hi⟩ := (hc _ _).1 hj
    exact ⟨i, (Nat.add_assoc _ _ _).symm, hi⟩
  · rintro ⟨i, rfl, hi⟩
    exact ⟨c + i, Nat.add_assoc _ _ _, (hc _ _).2 ⟨i, rfl, hi⟩⟩

/-- **A step leaves the outcome as it was**, over every library that was built for the site. -/
theorem step_precedes (hb : l.Built site.texts site.sources) (hf : load.Fits site.texts site.sources l)
    (hm : load.Missed site) (hw : load.Waiting) : Precedes site load (load.step site l).2.2 := by
  cases load with
  | done => exact hw.elim
  | atCache path =>
    simp only [Load.step]
    cases hc : site.cached path with
    | error e => exact precedes_failed fun _ _ => concludes_cacheFailed hc
    | ok found =>
      cases found with
      | none => exact ⟨0, fun _ _ => concludes_uncached hc⟩
      | some source => exact precedes_answered (advance_leadsTo (.start hb)) fun _ _ => concludes_cached hc
  | atNetwork path =>
    simp only [Load.step]
    cases hc : site.fetched path with
    | error e => exact precedes_failed fun _ _ => concludes_unreachable hc
    | ok source => exact precedes_answered (advance_leadsTo (.start hb)) fun _ _ => concludes_fetched hc
  | atPart path source name frames =>
    simp only [Load.step]
    cases hc : site.fetched (site.partialPath name) with
    | error e => exact precedes_failed fun _ _ => concludes_lost hc
    | ok text =>
      exact precedes_answered (advance_leadsTo (hf.enter hb (texts_eq_some.2 hc))) fun _ _ => concludes_follow hc

theorem advance_missed (l : Library) (path source : String) (frames : List Frame) :
    (Load.advance l path source frames).2.2.Missed site := by
  unfold Load.advance
  split
  · trivial
  · trivial
  · split <;> trivial

theorem step_missed (hm : load.Missed site) : (load.step site l).2.2.Missed site := by
  refine step_induction (P := fun _ load' => load'.Missed site) ?_ ?_ ?_ ?_
  · rintro outcome rfl
    trivial
  · exact fun _ => trivial
  · exact fun _ hcached => hcached
  · exact fun _ => advance_missed _ _ _ _

/-! ### The verdict on a path -/

/-- The outcome that a site has for the template of a path. -/
def Verdict (site : Site) (path : String) (outcome : Except Error Unit) : Prop :=
  ∃ k, Concludes site k (.atCache path) outcome

theorem concludes_of_source_error {e : Error} (h : site.sourceOf path = .error e) :
    ∃ c, ∀ k outcome, Concludes site k (.atCache path) outcome ↔ k = c ∧ outcome = .error e := by
  unfold Site.sourceOf at h
  rcases hc : site.cached path with e' | _ | source
  · rw [hc] at h
    cases h
    exact ⟨1, fun _ _ => concludes_cacheFailed hc⟩
  · rw [hc] at h
    refine ⟨2, fun k outcome => ?_⟩
    simp only [concludes_uncached hc, concludes_unreachable h]
    constructor
    · rintro ⟨j, rfl, rfl, ho⟩; exact ⟨rfl, ho⟩
    · rintro ⟨rfl, ho⟩; exact ⟨1, rfl, rfl, ho⟩
  · rw [hc] at h
    cases h

theorem concludes_of_source (h : site.sourceOf path = .ok source) :
    ∃ c, ∀ k outcome, Concludes site k (.atCache path) outcome ↔
      ∃ j, k = c + j ∧ Leads site j path source [Frame.of none source] outcome := by
  unfold Site.sourceOf at h
  rcases hc : site.cached path with e' | _ | source'
  · rw [hc] at h
    cases h
  · rw [hc] at h
    refine ⟨2, fun k outcome => ?_⟩
    simp only [concludes_uncached hc, concludes_fetched h]
    constructor
    · rintro ⟨j, rfl, i, rfl, hi⟩; exact ⟨i, by omega, hi⟩
    · rintro ⟨i, rfl, hi⟩; exact ⟨1 + i, by omega, i, rfl, hi⟩
  · rw [hc] at h
    cases h
    exact ⟨1, fun _ _ => concludes_cached hc⟩

theorem verdict_iff_of_error {e : Error} (h : site.sourceOf path = .error e) :
    Verdict site path outcome ↔ outcome = .error e := by
  obtain ⟨c, hc⟩ := concludes_of_source_error h
  simp [Verdict, hc]

theorem verdict_iff (h : site.sourceOf path = .ok source) :
    Verdict site path outcome ↔ ∃ k, Leads site k path source [Frame.of none source] outcome := by
  obtain ⟨c, hc⟩ := concludes_of_source h
  simp only [Verdict, hc]
  exact ⟨fun ⟨_, j, _, hj⟩ => ⟨j, hj⟩, fun ⟨j, hj⟩ => ⟨_, j, rfl, hj⟩⟩

/-- A site has one verdict on a path. -/
theorem Verdict.unique (h : Verdict site path outcome) (h' : Verdict site path outcome') : outcome = outcome' := by
  cases hs : site.sourceOf path with
  | error e => rw [(verdict_iff_of_error hs).1 h, (verdict_iff_of_error hs).1 h']
  | ok source =>
    obtain ⟨k, ended, he, rfl⟩ := (verdict_iff hs).1 h
    obtain ⟨j, ended', he', rfl⟩ := (verdict_iff hs).1 h'
    rw [(he.unique he').2]

/-- Where all references are sound, the frame of the template ends well. -/
theorem ends_of_sound (hs : ∀ n ∈ partialNames source, site.texts.Sound n) :
    ∃ k, Ends site k [Frame.of none source] (.ok ()) := by
  have work : ∀ names ⊆ partialNames source,
      ∃ c, EndsAfter site c [⟨none, source, names⟩] [⟨none, source, []⟩] := by
    intro names
    induction names with
    | nil => exact fun _ => ⟨0, .of_iff fun _ _ => Iff.rfl⟩
    | cons n names ih =>
      intro hsub
      obtain ⟨c, hc⟩ := (hs n (hsub List.mem_cons_self)).ends_iff (.root hsub)
      obtain ⟨d, hd⟩ := ih fun x hx => hsub (.tail _ hx)
      exact ⟨c + d, hc.trans hd⟩
  obtain ⟨c, hc⟩ := work (partialNames source) fun _ h => h
  exact ⟨c + 0, (hc _ _).2 ⟨0, rfl, .leave .complete⟩⟩

/-- The verdict on a complete template is a success. -/
theorem verdict_of_compiled (hb : l.Built site.texts site.sources) (hp : path ∈ l.compiled) :
    Verdict site path (.ok ()) := by
  obtain ⟨source, hs, hc, hl⟩ := hb.compiled path hp
  obtain ⟨k, hk⟩ := ends_of_sound fun n hn => hb.sound n (hl n hn)
  exact (verdict_iff (sources_eq_some.1 hs)).2 ⟨k, _, hk, by rw [compiledOr, if_pos hc]⟩

/-! ### Loads of a path -/

/-- What holds of a load of a path whenever it waits or is done: its outcome is the verdict on the path, and it needs
no more answers than the whole of it. -/
structure Pursues (site : Site) (path : String) (l : Library) (load : Load) : Prop where
  fits : load.Fits site.texts site.sources l
  isOf : load.IsOf path l
  missed : load.Missed site
  verdict : ∀ k outcome, Concludes site k load outcome → Verdict site path outcome
  within : ∀ k outcome, Concludes site k (.atCache path) outcome → ∃ j ≤ k, Concludes site j load outcome

theorem Pursues.mono (h : Pursues site path l load) (hl : l.loaded ⊆ l'.loaded) (hc : l.compiled ⊆ l'.compiled) :
    Pursues site path l' load :=
  ⟨h.fits.mono hl, h.isOf.mono hc, h.missed, h.verdict, h.within⟩

theorem begin_pursues (hb : l.Built site.texts site.sources) (path : String) :
    Pursues site path l (Load.begin l path) := by
  unfold Load.begin
  split
  · rename_i hp
    rw [Library.isCompiled_iff] at hp
    have hv := verdict_of_compiled hb hp
    refine ⟨trivial, hp, trivial, fun k outcome h => ?_, fun k outcome h => ?_⟩
    · rw [(concludes_done.1 h).2]
      exact hv
    · rw [Verdict.unique ⟨k, h⟩ hv]
      exact ⟨0, Nat.zero_le k, .done⟩
  · exact ⟨trivial, rfl, trivial, fun k outcome h => ⟨k, h⟩, fun k outcome h => ⟨k, Nat.le_refl k, h⟩⟩

theorem step_pursues (hb : l.Built site.texts site.sources) (h : Pursues site path l load) :
    Pursues site path (load.step site l).1 (load.step site l).2.2 := by
  rcases load.waiting_or_done with hw | ⟨outcome, rfl⟩
  · have hk := step_kept hb h.fits h.isOf (told_of_missed h.missed)
    obtain ⟨c, hc⟩ := step_precedes hb h.fits h.missed hw
    refine ⟨hk.fits, hk.isOf, step_missed h.missed, fun k outcome ho => ?_, fun k outcome ho => ?_⟩
    · exact h.verdict _ _ ((hc _ _).2 ⟨k, rfl, ho⟩)
    · obtain ⟨j, hj, hjo⟩ := h.within _ _ ho
      obtain ⟨i, rfl, hi⟩ := (hc _ _).1 hjo
      exact ⟨i, by omega, hi⟩
  · exact h

end EdgeWorker.Template
