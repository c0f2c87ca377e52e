import EdgeWorker.Proofs.Cache.Current
import EdgeWorker.Proofs.Host.Fetched
import EdgeWorker.Proofs.Template.Call
import EdgeWorker.Proofs.Template.Ending

/-!
What a load asks for, turn by turn.

* `Engine.stages` — the loads that wait, one for each turn; their requests are what is fetched (`fetches_carryOn`);
* `Load.behind` — the names that a load has behind it. The one that it waits for is not among them, and is from the next
  turn on (`step_behind`), so that no name comes twice (`stages_parts`);
* `Library.Within` — libraries only grow. What was registered once has no turn again, and a template that was completed
  once takes none at all (`loadWithin_of_compiled`).
-/

namespace EdgeWorker.Template

open EdgeWorker.Action EdgeWorker.Host

variable {σ : Type} {handle : Handler σ} {site : Site} {l l' l'' : Library} {load : Load} {path source name : String}
  {frames : List Frame}

/-! ### Names -/

/-- The names that a load has behind it. -/
def Load.behind (l : Library) : Load → List String
  | .atPart _ _ _ frames => seen l frames
  | _ => l.loaded

theorem Load.Fresh.not_mem_behind (h : load.Fresh l) (hn : load.part? = some name) : name ∉ load.behind l := by
  cases load with
  | atPart path source name frames => cases hn; exact h
  | _ => cases hn

theorem Load.loaded_subset_behind (load : Load) (l : Library) : l.loaded ⊆ load.behind l := by
  cases load with
  | atPart path source name frames => exact List.subset_append_left _ _
  | _ => exact List.Subset.refl _

/-- What a load enters has behind it what was behind the load, and the partial that it waited for. -/
theorem Load.Enters.seen_eq (h : load.Enters site path source frames) :
    seen l frames = load.behind l ++ load.part?.toList := by
  cases h with
  | part => simp [seen, Frame.of, Load.behind, Load.part?]
  | _ => rfl

theorem advance_behind (h : (Load.advance l path source frames).2.2.Waiting) :
    seen l frames ⊆ (Load.advance l path source frames).2.2.behind (Load.advance l path source frames).1 := by
  rcases advance_cases l path source frames with ⟨outcome, hdone⟩ | ⟨name, rest, hwaits, hseen, -⟩
  · rw [hdone] at h
    exact h.elim
  · rw [hwaits]
    exact hseen

/-- A load that waits again has behind it what it had, and the partial that it waited for. -/
theorem step_behind (site : Site) (l : Library) (load : Load) : (load.step site l).2.2.Waiting →
    load.behind l ++ load.part?.toList ⊆ (load.step site l).2.2.behind (load.step site l).1 := by
  refine step_induction (P := fun l' load' => load'.Waiting → load.behind l ++ load.part?.toList ⊆ load'.behind l')
    ?_ ?_ ?_ ?_
  · rintro outcome rfl hw
    exact hw.elim
  · exact fun _ hw => hw.elim
  · rintro path rfl - -
    exact List.append_subset.2 ⟨List.Subset.refl _, List.nil_subset _⟩
  · intro path source frames henters hw
    rw [← henters.seen_eq]
    exact advance_behind hw

/-! ### Libraries that grow -/

/-- A library has all that another one has. -/
structure Library.Within (l l' : Library) : Prop where
  loaded : l.loaded ⊆ l'.loaded
  compiled : l.compiled ⊆ l'.compiled

theorem Library.Within.refl (l : Library) : l.Within l := ⟨List.Subset.refl _, List.Subset.refl _⟩

theorem Library.Within.trans (h : l.Within l') (h' : l'.Within l'') : l.Within l'' :=
  ⟨List.Subset.trans h.loaded h'.loaded, List.Subset.trans h.compiled h'.compiled⟩

/-- A load that goes on only adds to the library, and is done with success only if its template is complete. -/
theorem advance_within (l : Library) (path source : String) (frames : List Frame) :
    l.Within (Load.advance l path source frames).1 ∧
      (Load.advance l path source frames).2.2.IsOf path (Load.advance l path source frames).1 := by
  refine advance_induction (I := fun l' _ => l.Within l') (P := fun l' load' => l.Within l' ∧ load'.IsOf path l')
    ?_ (.refl l) ?_ ?_ ?_
  · exact fun hm h => h.trans ⟨hm.loaded_subset, hm.compiled_eq ▸ List.Subset.refl _⟩
  · intro l' l'' h hadd
    obtain ⟨t, -, rfl⟩ := Library.addTemplate_eq_ok.1 hadd
    exact ⟨h.trans ⟨List.Subset.refl _, List.subset_cons_self _ _⟩, List.mem_cons_self⟩
  · exact fun h _ => ⟨h, trivial⟩
  · exact fun h _ _ => ⟨h, rfl⟩

theorem step_within (site : Site) (h : load.IsOf path l) :
    l.Within (load.step site l).1 ∧ (load.step site l).2.2.IsOf path (load.step site l).1 := by
  refine step_induction (P := fun l' load' => l.Within l' ∧ load'.IsOf path l') ?_ ?_ ?_ ?_
  · rintro outcome rfl
    exact ⟨.refl l, h⟩
  · exact fun _ => ⟨.refl l, trivial⟩
  · rintro p rfl -
    exact ⟨.refl l, h⟩
  · intro p source frames henters
    obtain rfl : p = path := by cases henters <;> exact h
    exact advance_within l p source frames

theorem begin_isOf (l : Library) (path : String) : (Load.begin l path).IsOf path l := by
  unfold Load.begin
  split
  · next h => exact Library.isCompiled_iff.1 h
  · rfl

namespace Engine

variable {e : Engine} {fs : Fetches} {steps : Nat} {s : σ}

theorem loadWithin_within (handle : Handler σ) (e : Engine) (steps : Nat) (path : String) (s : σ) :
    e.library.Within ((e.loadWithin steps path).run handle s).1.2.library ∧
      (((e.loadWithin steps path).run handle s).1.1 = .ok () →
        path ∈ ((e.loadWithin steps path).run handle s).1.2.library.compiled) := by
  have hends := carryOn_invariant handle (I := fun e' load' => e.library.Within e'.library ∧ load'.IsOf path e'.library)
    (fun s _ h => ?_) ⟨.refl _, begin_isOf e.library path⟩ steps path s
  · obtain ⟨e', load', hcut | ⟨outcome, rfl, hdone⟩, hwithin, hof⟩ := hends
    · rw [loadWithin, hcut]
      exact ⟨hwithin, nofun⟩
    · rw [loadWithin, hdone]
      refine ⟨hwithin, fun hok => ?_⟩
      obtain rfl : outcome = .ok () := hok
      exact hof
  · rw [turn_library, turn_load]
    exact ⟨h.1.trans (step_within _ h.2).1, (step_within _ h.2).2⟩

theorem perform_within (handle : Handler σ) (e : Engine) (use : Use) (s : σ) :
    e.library.Within ((e.perform use).run handle s).1.library := by
  cases use with
  | load steps path =>
    rw [perform, run_do]
    exact (loadWithin_within handle e steps path s).1
  | render steps path data =>
    have h := (loadWithin_within handle e steps path s).1
    simp only [perform, renderWithin, run_do, run_pure]
    revert h
    rcases (e.loadWithin steps path).run handle s with ⟨⟨x | _, e'⟩, s'⟩ <;> exact id

/-- Whatever an engine is used for, it keeps what it has. -/
theorem after_within (handle : Handler σ) (e : Engine) (uses : List Use) (s : σ) :
    e.library.Within ((e.after uses).run handle s).1.library := by
  induction uses generalizing e s with
  | nil => exact .refl _
  | cons use uses ih =>
    rw [after, run_do]
    exact (perform_within handle e use s).trans (ih _ _)

/-- A template that is complete is there at once. -/
theorem loadWithin_of_compiled (h : path ∈ e.library.compiled) (steps : Nat) :
    e.loadWithin steps path = .done (.ok (), e) := by
  have hbegin : Load.begin e.library path = .done (.ok ()) := if_pos (Library.isCompiled_iff.2 h)
  rw [loadWithin, hbegin]
  cases steps <;> rfl

/-! ### Turns -/

/-- The loads that wait in the turns of a load. -/
def stages (handle : Handler σ) : Nat → Engine → Load → σ → List Load
  | _, _, .done _, _ => []
  | 0, _, _, _ => []
  | steps + 1, e, load, s =>
    load :: stages handle steps (e.turn handle load s).1 (e.turn handle load s).2.1 (e.turn handle load s).2.2

theorem stages_done {outcome : Except Error Unit} : e.stages handle steps (.done outcome) s = [] := by
  cases steps <;> rfl

theorem stages_zero : e.stages handle 0 load s = [] := by cases load <;> rfl

theorem stages_succ (h : load.Waiting) : e.stages handle (steps + 1) load s = load ::
    (e.turn handle load s).1.stages handle steps (e.turn handle load s).2.1 (e.turn handle load s).2.2 := by
  cases load with
  | done => exact h.elim
  | _ => rfl

/-- No partial comes twice, and none that is behind the load from the start. -/
theorem stages_parts (h : load.Fresh e.library) (steps : Nat) (s : σ) :
    ((e.stages handle steps load s).filterMap Load.part?).Nodup ∧
      ∀ n ∈ (e.stages handle steps load s).filterMap Load.part?, n ∉ load.behind e.library := by
  induction steps generalizing e load s with
  | zero =>
    rw [stages_zero]
    exact ⟨List.nodup_nil, List.forall_mem_nil _⟩
  | succ steps ih =>
    rcases load.waiting_or_done with hw | ⟨outcome, rfl⟩
    · rw [stages_succ hw]
      obtain ⟨hnodup, hnew⟩ := ih (turn_fresh handle e load s) (e.turn handle load s).2.2
      -- what comes later was neither behind the load nor what it waits for
      have hlater : ∀ n ∈ ((e.turn handle load s).1.stages handle steps (e.turn handle load s).2.1
          (e.turn handle load s).2.2).filterMap Load.part?, n ∉ load.behind e.library ++ load.part?.toList := by
        intro n hn hbehind
        rcases (e.turn handle load s).2.1.waiting_or_done with hnext | ⟨outcome, hdone⟩
        · refine hnew n hn ?_
          rw [turn_library]
          rw [turn_load] at hnext ⊢
          exact step_behind _ _ load hnext hbehind
        · rw [hdone, stages_done] at hn
          cases hn
      rw [List.filterMap_cons]
      cases hpart : load.part? with
      | none =>
        rw [hpart, Option.toList_none, List.append_nil] at hlater
        exact ⟨hnodup, hlater⟩
      | some name =>
        rw [hpart, Option.toList_some] at hlater
        refine ⟨List.nodup_cons.2 ⟨fun hn => hlater name hn (by simp), hnodup⟩, List.forall_mem_cons.2 ⟨?_, ?_⟩⟩
        · exact h.not_mem_behind hpart
        · exact fun n hn hbehind => hlater n hn (List.mem_append_left _ hbehind)
    · rw [stages_done]
      exact ⟨List.nodup_nil, List.forall_mem_nil _⟩

/-! ### Requests -/

def requestFor? (e : Engine) : Load → Option Http.Request
  | .atNetwork path => e.cache.requestOf? path
  | .atPart _ _ name _ => e.cache.requestOf? (e.partialPath name)
  | _ => none

/-- A source is fetched if there is a request for it, and it is the text of a response with success. -/
theorem comesTo_fetched {result : Except Error String} (h : ComesTo (e.fetched path).run fs result) :
    fs.map Prod.fst = (e.cache.requestOf? path).toList ∧ ∀ text, result = .ok text →
      ∃ request response, fs = [(request, .ok response)] ∧ response.isSuccess ∧ response.text = .ok text := by
  unfold fetched orFault at h
  unfold Cache.Current.requestOf?
  rcases h.of_mapError_bind with ⟨url, hurl, h⟩ | ⟨x, hurl, rfl, rfl⟩
  · rw [hurl]
    dsimp only
    rcases h.of_mapError_bind with ⟨request, hrequest, h⟩ | ⟨x, hrequest, rfl, rfl⟩
    · rw [hrequest]
      rcases h.of_withError_bind with ⟨_, _, response, rfl, hfetch, hchecked⟩ | ⟨x, hfetch, rfl⟩
      · obtain rfl := comesTo_fetch.1 hfetch
        dsimp only at hchecked
        split at hchecked
        · obtain ⟨rfl, rfl⟩ := comesTo_pure.1 hchecked
          exact ⟨rfl, nofun⟩
        · next hsuccess =>
          obtain ⟨rfl, rfl⟩ := comesTo_settled.1 hchecked
          refine ⟨rfl, fun text htext => ⟨request, response, rfl, by simpa using hsuccess, ?_⟩⟩
          exact Cache.Current.mapError_eq_ok.1 htext
      · obtain rfl := comesTo_fetch.1 hfetch
        exact ⟨rfl, nofun⟩
    · rw [hrequest]
      exact ⟨rfl, nofun⟩
  · rw [hurl]
    exact ⟨rfl, nofun⟩

/-- In a turn the request that the load waits for is fetched. -/
theorem comesTo_next {result : Library × List Event × Load} (h : ComesTo (e.next load) fs result) :
    fs.map Prod.fst = (e.requestFor? load).toList := by
  cases load with
  | done outcome =>
    obtain ⟨rfl, -⟩ := comesTo_pure.1 h
    rfl
  | atCache path =>
    have hasks : Host.Asks Question.IsLocal (e.cached path).run := (e.tries_cached path fun _ => trivial).asks
    rw [h.eq_nil (hasks.bind fun _ => asks_pure _)]
    rfl
  | atNetwork path =>
    obtain ⟨text, htext, -⟩ := comesTo_map.1 h
    exact (comesTo_fetched htext).1
  | atPart path source name frames =>
    obtain ⟨text, htext, -⟩ := comesTo_map.1 h
    exact (comesTo_fetched htext).1

theorem fetches_carryOn_succ (h : load.Waiting) (steps : Nat) (path : String) (s : σ) :
    fetches ((carryOn path (steps + 1) e load).exchanges handle s) = fetches ((e.next load).exchanges handle s) ++
      fetches ((carryOn path steps (e.turn handle load s).1 (e.turn handle load s).2.1).exchanges handle
        (e.turn handle load s).2.2) := by
  have hreport (events : List Event) (s : σ) : fetches ((report events).exchanges handle s) = [] :=
    (comesTo_run handle (report events) s).eq_nil (asks_report (fun _ _ => trivial) events)
  cases load with
  | done => exact h.elim
  | _ => simp only [carryOn, exchanges_bind, fetches_append, hreport, turn, List.nil_append]

/-- What is fetched for a load are the requests that it waits for. -/
theorem fetches_carryOn (handle : Handler σ) (path : String) (steps : Nat) (e : Engine) (load : Load) (s : σ) :
    (fetches ((carryOn path steps e load).exchanges handle s)).map Prod.fst =
      (e.stages handle steps load s).filterMap e.requestFor? := by
  induction steps generalizing e load s with
  | zero => cases load <;> rfl
  | succ steps ih =>
    rcases load.waiting_or_done with hw | ⟨outcome, rfl⟩
    · rw [fetches_carryOn_succ hw, List.map_append, comesTo_next (comesTo_run handle _ s), ih, stages_succ hw,
        List.filterMap_cons]
      cases e.requestFor? load <;> rfl
    · rfl

end Engine
end EdgeWorker.Template
