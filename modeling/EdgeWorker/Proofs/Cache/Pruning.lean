import EdgeWorker.Cache.Current
import EdgeWorker.Proofs.Host.Serving
import EdgeWorker.Proofs.Template.Run
import Mathlib.Data.List.Nodup

/-!
An activation drops all generations but the current one.

* `namesOf` — the names of the generations after a history of operations, oldest first;
* `Serves names m gs` — a host in which no operation fails has a storage that answers on these names as generations in
  memory do (`Serves.answer`);
* `Serves.activate` — what an activation makes of such a host;
* `activate_spec` — the same for all hosts that operations lead to.
-/

namespace EdgeWorker

/-! ### Several keys of a map -/

namespace Keyed

variable {κ α : Type} [DecidableEq κ]

theorem get?_foldl_erase (m : Keyed κ α) (ks : List κ) (k : κ) :
    (ks.foldl erase m).get? k = if k ∈ ks then none else m.get? k := by
  induction ks generalizing m with
  | nil => rfl
  | cons l ks ih =>
    rw [List.foldl_cons, ih, get?_erase]
    by_cases hk : k ∈ ks
    · rw [if_pos hk, if_pos (List.mem_cons_of_mem _ hk)]
    · rw [if_neg hk]
      by_cases hl : k = l
      · rw [if_pos hl, if_pos (hl ▸ List.mem_cons_self)]
      · rw [if_neg hl, if_neg fun h => (List.mem_cons.1 h).elim hl hk]

theorem keys_foldl_erase (m : Keyed κ α) (ks : List κ) :
    (ks.foldl erase m).keys = m.keys.filter (· ∉ ks) := by
  induction ks generalizing m with
  | nil => exact (List.filter_eq_self.2 fun _ _ => by simp).symm
  | cons l ks ih =>
    rw [List.foldl_cons, ih, keys_erase, List.filter_filter]
    congr 1
    funext k
    simp [not_or, Bool.and_comm]

end Keyed

namespace Cache

/-! ### The names after a history -/

/-- The names of the generations that were made by operations and not deleted since, oldest first. -/
def namesOf (ops : List Operation) : List String := ops.foldl Operation.namesAfter []

namespace Generations

variable {gs : Generations} {g h : String}

/-- The generations without all but one of them. -/
def dropOthers (gs : Generations) (g : String) : Generations := (gs.keys.filter (· ≠ g)).foldl Keyed.erase gs

theorem get?_dropOthers (gs : Generations) (g h : String) :
    (gs.dropOthers g).get? h = if h = g then gs.get? g else none := by
  rw [dropOthers, Keyed.get?_foldl_erase]
  by_cases hg : h = g
  · rw [if_neg (by simp [hg]), if_pos hg, hg]
  · rw [if_neg hg]
    by_cases hk : h ∈ gs.keys
    · rw [if_pos (List.mem_filter.2 ⟨hk, by simpa using hg⟩)]
    · rw [if_neg fun hm => hk (List.mem_of_mem_filter hm)]
      exact Option.not_isSome_iff_eq_none.1 (mt Keyed.mem_keys.2 hk)

theorem keys_dropOthers (gs : Generations) (g : String) :
    (gs.dropOthers g).keys = if g ∈ gs.keys then [g] else [] := by
  have hfilter : gs.keys.filter (· ∉ gs.keys.filter (· ≠ g)) = gs.keys.filter (· = g) := by
    refine List.filter_congr fun k hk => ?_
    simp [hk]
  rw [dropOthers, Keyed.keys_foldl_erase, hfilter, List.filter_eq]
  split
  · next hg =>
    have hnodup : gs.keys.Nodup := gs.distinct
    rw [List.count_eq_one_of_mem hnodup hg, List.replicate_one]
  · next hg => rw [List.count_eq_zero_of_not_mem hg, List.replicate_zero]

theorem entryAt?_dropOthers_self (gs : Generations) (g url : String) :
    (gs.dropOthers g).entryAt? g url = gs.entryAt? g url := by
  rw [entryAt?, get?_dropOthers, if_pos rfl, entryAt?]

theorem entryAt?_dropOthers_of_ne (hne : h ≠ g) (url : String) : (gs.dropOthers g).entryAt? h url = none := by
  rw [entryAt?, get?_dropOthers, if_neg hne, Option.bind_none]

end Generations

end Cache

namespace Host.Memory

open EdgeWorker.Action EdgeWorker.Cache EdgeWorker.Cache.Persistent

variable {names : String → Prop} {m : Memory} {gs : Generations} {c : Current}

def after (m : Memory) (ops : List Operation) : Memory := ops.foldl (fun m op => (m.answer (.store op)).2) m

/-- A host answers operations on generations of these names as generations in memory do. -/
def Serves (names : String → Prop) (m : Memory) (gs : Generations) : Prop := m.failing = [] ∧ m.storage.Serves names gs

theorem Serves.answer (h : Serves names m gs) (op : Operation) (hop : ∀ g ∈ op.generation?, names g) :
    (m.answer (.store op)).1 = (gs.perform op).1 ∧ Serves names (m.answer (.store op)).2 (gs.perform op).2 := by
  obtain ⟨hf, hserves⟩ := h
  rw [answer_store hf, perform]
  have hkeys := hserves.keys_perform hop
  rcases hserves.answers with hgs | ⟨s, c, hs, hholds, hkeeps⟩
  · rw [hgs]
    exact ⟨rfl, hf, .inl rfl, hkeys⟩
  · obtain ⟨hanswer, c', hholds', hkeeps'⟩ := hholds.perform hkeeps m.logs hop
    rw [hs]
    exact ⟨hanswer, hf, .inr ⟨_, c', rfl, hholds', hkeeps'⟩, hkeys⟩

theorem Serves.log (h : Serves names m gs) (record : Log.Record) : Serves names (m.answer (.log record)).2 gs := h

/-- What operations on these names lead to. -/
theorem Serves.after (h : Serves names m gs) {ops : List Operation} (hops : ∀ op ∈ ops, ∀ g ∈ op.generation?, names g) :
    ∃ gs', Serves names (m.after ops) gs' ∧ gs'.keys = ops.foldl Operation.namesAfter gs.keys := by
  induction ops generalizing m gs with
  | nil => exact ⟨gs, h, rfl⟩
  | cons op ops ih =>
    obtain ⟨gs', hserves, hkeys⟩ := ih (h.answer op (hops op List.mem_cons_self)).2
      fun op hop => hops op (List.mem_cons_of_mem _ hop)
    exact ⟨gs', hserves, by rw [hkeys, gs.keys_perform op]; rfl⟩

/-! ### Activations -/

/-- Generations are deleted one after another. -/
theorem Serves.deletions (h : Serves names m gs) {ns : List String} (hns : ∀ g ∈ ns, names g) :
    (∃ flags, (m.run (all (ns.map fun g => store (.deleteGeneration g))).run).1 = .ok flags) ∧
      Serves names (m.run (all (ns.map fun g => store (.deleteGeneration g))).run).2 (ns.foldl Keyed.erase gs) := by
  let delete (g : String) : Job (Except Error Bool) := (store (.deleteGeneration g)).run
  have hmapM : ∃ flags : List Bool, (m.run (ns.mapM delete)).1 = flags.map .ok ∧
      Serves names (m.run (ns.mapM delete)).2 (ns.foldl Keyed.erase gs) := by
    unfold Memory.run
    induction ns generalizing m gs with
    | nil => exact ⟨[], rfl, h⟩
    | cons g ns ih =>
      obtain ⟨hanswer, hnext⟩ := h.answer (.deleteGeneration g) fun g' hg => hns g' (by cases hg; exact List.mem_cons_self)
      obtain ⟨flags, hflags, hserves⟩ := ih hnext fun g hg => hns g (List.mem_cons_of_mem _ hg)
      rw [List.mapM_cons, run_do, run_do, run_pure]
      refine ⟨gs.contains g :: flags, ?_, hserves⟩
      exact congrArg₂ List.cons hanswer hflags
  obtain ⟨flags, hflags, hserves⟩ := hmapM
  unfold Memory.run at hflags hserves ⊢
  rw [run_all, run_do, run_pure, hflags]
  exact ⟨⟨flags, mapM_id_eq_ok.2 rfl⟩, hserves⟩

/-- An activation deletes all generations but the current one. -/
theorem Serves.activate (h : Serves names m gs) (c : Current) :
    (m.run c.activate.run).1 = .ok (gs.keys.filter (· ≠ c.generation)) ∧
      Serves names (m.run c.activate.run).2 (gs.dropOthers c.generation) := by
  obtain ⟨hanswer, hnext⟩ := h.answer .generations nofun
  have hstale : ∀ g ∈ gs.keys.filter (· ≠ c.generation), names g := fun g hg => h.2.keys g (List.mem_of_mem_filter hg)
  obtain ⟨⟨flags, hflags⟩, hserves⟩ := hnext.deletions hstale
  unfold Memory.run at hflags hserves ⊢
  unfold Current.activate
  have hfirst : (store .generations).run.run Memory.answer m = (.ok gs.keys, (m.answer (.store .generations)).2) :=
    Prod.ext hanswer rfl
  rw [run_attempt, hfirst]
  dsimp only
  rw [run_attempt]
  generalize (all _).run.run Memory.answer _ = deleted at hflags hserves ⊢
  obtain ⟨_, m'⟩ := deleted
  cases hflags
  exact ⟨rfl, hserves.log _⟩

/-- A host that operations lead to answers as generations with the names of the history. -/
theorem exists_serves (names : String → Prop) {ops : List Operation} (h : m = empty.after ops ∨
    m = onStore.after ops ∧ Separate names) (hops : ∀ op ∈ ops, ∀ g ∈ op.generation?, names g) :
    ∃ gs, Serves names m gs ∧ gs.keys = namesOf ops := by
  rcases h with rfl | ⟨rfl, hnames⟩
  · have hempty : Serves names empty .empty := ⟨rfl, Storage.serves_empty (.inl rfl)⟩
    exact hempty.after hops
  · have hempty : Serves names onStore .empty := ⟨rfl, Storage.serves_empty (.inr ⟨rfl, hnames⟩)⟩
    exact hempty.after hops

/-- Whatever operations were made before, on a storage in memory or, with names without a colon, on one over a store: an
activation returns the names of all generations but the current one, oldest first. Afterwards there is no other
generation, the current one has the entries that it had, those that were dropped have none, even when they are made
again, and another activation drops nothing. -/
theorem activate_spec {ops : List Operation} (h : m = empty.after ops ∨ m = onStore.after ops ∧
    Unmarked c.generation ∧ ∀ op ∈ ops, ∀ g ∈ op.generation?, Unmarked g) :
    let m' := (m.run c.activate.run).2
    (m.answer (.store .generations)).1 = .ok (namesOf ops) ∧
    (m.run c.activate.run).1 = .ok ((namesOf ops).filter (· ≠ c.generation)) ∧
    (m'.answer (.store .generations)).1 = .ok (if c.generation ∈ namesOf ops then [c.generation] else []) ∧
    (∀ url, (m'.answer (.store (.get c.generation url))).1 = (m.answer (.store (.get c.generation url))).1) ∧
    (∀ g ∈ namesOf ops, g ≠ c.generation → ∀ url, (m'.answer (.store (.get g url))).1 = .ok none ∧
      ((m'.answer (.store (.openGeneration g))).2.answer (.store (.get g url))).1 = .ok none) ∧
    (m'.run c.activate.run).1 = .ok [] := by
  intro m'
  obtain ⟨names, gs, hserves, hkeys, hc⟩ : ∃ (names : String → Prop) (gs : Generations),
      Serves names m gs ∧ gs.keys = namesOf ops ∧ names c.generation := by
    rcases h with hm | ⟨hm, hc, hops⟩
    · obtain ⟨gs, hserves, hgs⟩ := exists_serves (fun _ => True) (.inl hm) fun _ _ _ _ => trivial
      exact ⟨_, gs, hserves, hgs, trivial⟩
    · obtain ⟨gs, hserves, hgs⟩ := exists_serves Unmarked (.inr ⟨hm, separate_unmarked⟩) hops
      exact ⟨_, gs, hserves, hgs, hc⟩
  rw [← hkeys]
  have hall := hserves.2.keys
  obtain ⟨hresult, hafter⟩ := hserves.activate c
  have hget {m : Memory} {gs : Generations} (h : Serves names m gs) {g : String} (hg : names g) (url : String) :
      (m.answer (.store (.get g url))).1 = .ok (gs.entryAt? g url) :=
    (h.answer (.get g url) fun _ hg' => Option.some.inj hg' ▸ hg).1
  refine ⟨(hserves.answer .generations nofun).1, hresult, ?_, fun url => ?_, fun g hg hne url => ⟨?_, ?_⟩, ?_⟩
  · exact (hafter.answer .generations nofun).1.trans (congrArg Except.ok (gs.keys_dropOthers c.generation))
  · rw [hget hafter hc, hget hserves hc, Generations.entryAt?_dropOthers_self]
  · rw [hget hafter (hall g hg), Generations.entryAt?_dropOthers_of_ne hne]
  · have hopened := (hafter.answer (.openGeneration g) fun _ hg' => Option.some.inj hg' ▸ hall g hg).2
    rw [hget hopened (hall g hg)]
    exact congrArg Except.ok ((Generations.entryAt?_openGeneration _ g g url).trans
      (Generations.entryAt?_dropOthers_of_ne hne url))
  · have hleft : ∀ g ∈ (gs.dropOthers c.generation).keys, g = c.generation := by
      intro g hg
      rw [Generations.keys_dropOthers] at hg
      split at hg
      · exact List.mem_singleton.1 hg
      · cases hg
    rw [(hafter.activate c).1]
    exact congrArg Except.ok (List.filter_eq_nil_iff.2 fun g hg => by simpa using hleft g hg)

/-- After the history in which the older generation came back behind the younger one, the younger one is dropped. -/
theorem activate_spec_of_returning :
    (Unmarked "v1" ∧ ∀ op ∈ returning, ∀ g ∈ op.generation?, Unmarked g) ∧ namesOf returning = ["v2", "v1"] ∧
    ((onStore.after returning).run { Template.rootCache with generation := "v1" }.activate.run).1 = .ok ["v2"] := by
  have hnames : Unmarked "v1" ∧ ∀ op ∈ returning, ∀ g ∈ op.generation?, Unmarked g := by decide +kernel
  refine ⟨hnames, by decide +kernel, ?_⟩
  exact (activate_spec (c := { Template.rootCache with generation := "v1" }) (.inr ⟨rfl, hnames⟩)).2.1.trans
    (by decide +kernel)

end Host.Memory
end EdgeWorker
