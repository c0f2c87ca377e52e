import EdgeWorker.Proofs.Template.Asked
import EdgeWorker.Proofs.Template.Ledger

/-!
Loads over a network whose sources refer to finitely many partials (`Engine.Offers`).

All names that a load comes across are among finitely many (`Load.Among`): those of its template, and those that the
network offers. Among so many names it comes to its end (`exists_loadWithin_eq`, `converges_renderWithin`), whatever the
cache answers. A network that serves finitely many addresses is such a one (`offers_of_serves`), since each page that it
serves names finitely many partials. `loadWithin_spec` says of it that loads end, together with what is fetched, and how
often.
-/

namespace EdgeWorker.Template

open EdgeWorker.Action EdgeWorker.Host

variable {σ : Type} {handle : Handler σ} {site : Site} {l l' : Library} {load : Load} {names names' : List String}
  {path source : String} {frames frames' : List Frame}

/-! ### The names that a load comes across -/

/-- A load waits for no partials but those of these names, and has no others before it. -/
def Load.Among (names : List String) : Load → Prop
  | .atCache _ => False
  | .atNetwork _ => True
  | .atPart _ _ name frames => name ∈ names ∧ ∀ f ∈ frames, f.pending ⊆ names
  | .done _ => True

theorem Load.Among.mem (h : load.Among names) {name : String} (hn : load.part? = some name) : name ∈ names := by
  cases load with
  | atPart path source name frames => cases hn; exact h.1
  | _ => cases hn

theorem Library.Move.pending_subset (h : Library.Move (l, frames) (l', frames')) (hs : ∀ f ∈ frames, f.pending ⊆ names) :
    ∀ f ∈ frames', f.pending ⊆ names := by
  cases h with
  | leave => exact (List.forall_mem_cons.1 hs).2
  | register => exact (List.forall_mem_cons.1 hs).2
  | skip =>
    obtain ⟨hfirst, hothers⟩ := List.forall_mem_cons.1 hs
    exact List.forall_mem_cons.2 ⟨(List.cons_subset.1 hfirst).2, hothers⟩

theorem advance_among (l : Library) (path source : String) (h : ∀ f ∈ frames, f.pending ⊆ names) :
    (Load.advance l path source frames).2.2.Among names := by
  refine advance_induction (I := fun _ rest => ∀ f ∈ rest, f.pending ⊆ names) (P := fun _ load' => load'.Among names)
    Library.Move.pending_subset h ?_ ?_ ?_
  · exact fun _ _ => trivial
  · exact fun _ _ => trivial
  · intro l' owner text name pending rest hpending _ _
    obtain ⟨hfirst, hothers⟩ := List.forall_mem_cons.1 hpending
    obtain ⟨hname, hrest⟩ := List.cons_subset.1 hfirst
    exact ⟨hname, List.forall_mem_cons.2 ⟨hrest, hothers⟩⟩

/-- Pages that name no others lead to no others. -/
theorem step_among (l : Library) (h : load.Among names)
    (hsite : ∀ path text, site.fetched path = .ok text → partialNames text ⊆ names) :
    (load.step site l).2.2.Among names := by
  refine step_induction (P := fun _ load' => load'.Among names) ?_ ?_ ?_ ?_
  · rintro outcome rfl
    trivial
  · exact fun _ => trivial
  · exact fun _ _ => trivial
  · intro path source frames henters
    refine advance_among l path source ?_
    cases henters with
    | cached => exact h.elim
    | fetched hsource => exact List.forall_mem_singleton.2 (hsite _ _ hsource)
    | part htext => exact List.forall_mem_cons.2 ⟨hsite _ _ htext, h.2⟩

/-- What the cache has may name others. -/
theorem exists_among (site : Site) (l : Library) (path : String) (names : List String) :
    ∃ names', names ⊆ names' ∧ ((Load.atCache path).step site l).2.2.Among names' := by
  rw [Load.step]
  rcases site.cached path with x | _ | source
  · exact ⟨names, List.Subset.refl _, trivial⟩
  · exact ⟨names, List.Subset.refl _, trivial⟩
  · refine ⟨names ++ partialNames source, List.subset_append_left _ _, advance_among l path source ?_⟩
    exact List.forall_mem_singleton.2 (List.subset_append_right _ _)

/-! ### Outcomes -/

/-- A load has not come to an end for want of steps, nor for a fault of a page. -/
def Load.Genuine : Load → Prop
  | .done (.error (.endless _)) => False
  | .done (.error (.render _ _)) => False
  | _ => True

theorem Error.IsAt.genuine {x : Error} (h : x.IsAt path) : Load.Genuine (.done (.error x)) := by
  rcases h with ⟨fault, rfl⟩ | ⟨status, rfl⟩ <;> trivial

theorem advance_genuine (l : Library) (path source : String) (frames : List Frame) :
    (Load.advance l path source frames).2.2.Genuine := by
  refine advance_induction (I := fun _ _ => True) (P := fun _ load' => load'.Genuine) (fun _ h => h) trivial ?_ ?_ ?_
  · exact fun _ _ => trivial
  · rintro l' rest x - hx
    cases hx <;> trivial
  · exact fun _ _ _ => trivial

/-! ### Networks -/

variable {network : String → Except Fetch.Error Http.Response} {served : List String}

/-- The network answers by the address alone, and with success at these addresses only. -/
structure Serves (handle : Handler σ) (network : String → Except Fetch.Error Http.Response) (served : List String) :
    Prop where
  answer : ∀ r s, (handle (.fetch r) s).1 = network r.target.text
  mem : ∀ address response, network address = .ok response → response.isSuccess → address ∈ served

def namesAt (network : String → Except Fetch.Error Http.Response) (address : String) : List String :=
  match network address with
  | .ok response => (response.text.toOption.map partialNames).getD []
  | .error _ => []

/-- All names that such a network has a partial or a template with. -/
def namesIn (network : String → Except Fetch.Error Http.Response) (served : List String) : List String :=
  served.flatMap (namesAt network)

namespace Engine

variable {e : Engine} {s : σ}

/-! ### Ends -/

theorem turn_genuine (h : load.Genuine) : (e.turn handle load s).2.1.Genuine := by
  rw [turn_load]
  refine step_induction (P := fun _ load' => load'.Genuine) ?_ ?_ ?_ ?_
  · rintro outcome rfl
    exact h
  · intro x hx
    cases hx with
    | cached hx => exact (isAt_of_cached e _ hx).genuine
    | fetched hx => exact (isAt_of_fetched e _ hx).genuine
    | part hx => exact (isAt_of_fetched e _ hx).genuine
  · exact fun _ _ => trivial
  · exact fun _ => advance_genuine e.library _ _ _

/-- A fault of a page is none of a load. -/
theorem loadWithin_ne_render (handle : Handler σ) (e : Engine) (steps : Nat) (path : String) (s : σ) (q : String)
    (fault : Fault) : ((e.loadWithin steps path).run handle s).1.1 ≠ .error (.render q fault) := by
  have hbegin : (Load.begin e.library path).Genuine := by
    unfold Load.begin
    split <;> trivial
  obtain ⟨e', load, hends, hgenuine⟩ := carryOn_invariant handle (I := fun _ load => load.Genuine)
    (fun _ _ h => turn_genuine h) hbegin steps path s
  unfold loadWithin
  rcases hends with hcut | ⟨outcome, rfl, hdone⟩
  · rw [hcut]
    nofun
  · rw [hdone]
    rintro rfl
    exact hgenuine

/-- The sources that the network ever has refer to these partials only. -/
def Offers (handle : Handler σ) (names : List String) (e : Engine) : Prop :=
  ∀ s path text, (e.site handle s).fetched path = .ok text → partialNames text ⊆ names

theorem Offers.turn (h : e.Offers handle names) (s : σ) : (e.turn handle load s).1.Offers handle names := by
  intro s' path text htext
  rw [turn_site] at htext
  exact h s' path text htext

theorem offers_of_serves (h : Serves handle network served) (e : Engine) : e.Offers handle (namesIn network served) := by
  intro s path text htext
  obtain ⟨request, response, hfetches, hsuccess, hresponse⟩ :=
    (comesTo_fetched (comesTo_run handle (e.fetched path).run s)).2 text htext
  have hmem : (request, Except.ok response) ∈ fetches ((e.fetched path).run.exchanges handle s) := by
    rw [hfetches]
    exact List.mem_singleton_self _
  obtain ⟨s', hanswer⟩ := exists_state_of_mem_exchanges (mem_of_mem_fetches hmem)
  have hserved : network request.target.text = .ok response := (h.answer request s').symm.trans hanswer.symm
  intro name hname
  refine List.mem_flatMap.2 ⟨request.target.text, h.mem _ _ hserved hsuccess, ?_⟩
  rw [namesAt, hserved]
  dsimp only
  rw [hresponse]
  exact hname

theorem exists_carryOn_eq (ho : e.Offers handle names) (hnames : names ⊆ names')
    (hamong : load.Among names') (hfresh : load.Fresh e.library) (hgenuine : load.Genuine) (path : String) (s : σ) :
    ∃ steps outcome e' s', Load.Genuine (.done outcome) ∧
      ∀ more, (carryOn path (steps + more) e load).run handle s = ((outcome, e'), s') := by
  have hends := exists_run_carryOn_eq handle
    (I := fun e load => e.Offers handle names ∧ load.Among names' ∧ load.Fresh e.library ∧ load.Genuine)
    (fun e load => load.rank names' e.library)
    (fun {e load} s hw hI => ?_) ⟨ho, hamong, hfresh, hgenuine⟩ (Nat.le_refl _) path s
  · obtain ⟨outcome, e', s', ⟨-, -, -, hdone⟩, hrun⟩ := hends
    exact ⟨_, outcome, e', s', hdone, hrun⟩
  · obtain ⟨ho, hamong, hfresh, hgenuine⟩ := hI
    refine ⟨⟨ho.turn s, ?_, turn_fresh handle e load s, turn_genuine hgenuine⟩, ?_⟩
    · rw [turn_load]
      exact step_among _ hamong fun path text htext => List.Subset.trans (ho s path text htext) hnames
    · rw [turn_library, turn_load]
      exact step_rank_lt (fun _ _ hpart _ => hamong.mem hpart) hfresh hw

/-- The names need only be known from the next turn on. -/
theorem exists_carryOn_eq_of_turn (ho : e.Offers handle names) (hnames : names ⊆ names')
    (hw : load.Waiting) (hamong : (e.turn handle load s).2.1.Among names') (hgenuine : load.Genuine) (path : String) :
    ∃ steps outcome e' s', Load.Genuine (.done outcome) ∧
      ∀ more, (carryOn path (steps + more) e load).run handle s = ((outcome, e'), s') := by
  obtain ⟨steps, outcome, e', s', hdone, hrun⟩ :=
    exists_carryOn_eq (ho.turn s) hnames hamong (turn_fresh handle e load s) (turn_genuine hgenuine) path
      (e.turn handle load s).2.2
  refine ⟨steps + 1, outcome, e', s', hdone, fun more => ?_⟩
  rw [Nat.add_right_comm, run_carryOn_succ _ hw]
  exact hrun more

/-- A load comes to its end, and not for want of steps. -/
theorem exists_loadWithin_eq (ho : e.Offers handle names) (path : String) (s : σ) :
    ∃ steps outcome e' s', Load.Genuine (.done outcome) ∧
      ∀ more, (e.loadWithin (steps + more) path).run handle s = ((outcome, e'), s') := by
  unfold loadWithin Load.begin
  split
  · exact ⟨0, .ok (), e, s, trivial, fun more => run_carryOn_done _ _⟩
  · have hw : (Load.atCache path).Waiting := trivial
    have hgenuine : (Load.atCache path).Genuine := trivial
    -- the names in the source that the cache has are known after the first turn
    obtain ⟨names', hnames, hamong⟩ := exists_among (e.site handle s) e.library path names
    rw [← turn_load] at hamong
    exact exists_carryOn_eq_of_turn ho hnames hw hamong hgenuine path

/-- So does the making of a page. -/
theorem converges_renderWithin (ho : e.Offers handle names) (path : String) (data : Json.Value) (s : σ) :
    Converges handle (e.renderWithin · path data) (fun p => ∀ q, p.1 ≠ .error (.endless q)) s := by
  obtain ⟨steps, outcome, e', s', hdone, hrun⟩ := exists_loadWithin_eq ho path s
  have hload : Converges handle (e.loadWithin · path) (fun p => Load.Genuine (.done p.1)) s :=
    ⟨steps, (hrun 0).symm ▸ hdone, fun more => (hrun more).trans (hrun 0).symm⟩
  refine hload.bind ?_
  rintro ⟨x | ⟨⟩, e'⟩ s' hgenuine
  · refine converges_const fun q hq => ?_
    cases hq
    exact hgenuine
  · exact converges_const fun q => page_ne_endless q

/-! ### What loads ask for -/

/-- The names of the partials that a load of a path asks for, one after another. -/
def asked (handle : Handler σ) (steps : Nat) (e : Engine) (path : String) (s : σ) : List String :=
  (e.stages handle steps (Load.begin e.library path) s).filterMap Load.part?

theorem begin_fresh (l : Library) (path : String) : (Load.begin l path).Fresh l := by
  unfold Load.begin
  split <;> trivial

theorem nodup_asked (handle : Handler σ) (steps : Nat) (e : Engine) (path : String) (s : σ) :
    (e.asked handle steps path s).Nodup := (stages_parts (begin_fresh e.library path) steps s).1

theorem not_mem_asked {name : String} (h : name ∈ e.library.loaded) (handle : Handler σ) (steps : Nat) (path : String)
    (s : σ) : name ∉ e.asked handle steps path s := fun hname =>
  (stages_parts (begin_fresh e.library path) steps s).2 name hname (Load.loaded_subset_behind _ _ h)

/-- **Loads end, and ask for nothing that they have.** Over a network that serves finitely many addresses, whatever the
cache answers and whatever the engine has, a load comes to its end, and is not cut off by a bound on its steps. What it
fetches are its template and partials, each name once. A partial that is registered is not asked for in any later load.
A template that was loaded is there for every later load of its path, which asks nothing at all. -/
theorem loadWithin_spec (h : Serves handle network served) (e : Engine) (path : String) (s : σ) :
    (∃ steps outcome e' s', outcome ≠ .error (.endless path) ∧
      ∀ more, (e.loadWithin (steps + more) path).run handle s = ((outcome, e'), s')) ∧
    (∀ steps, (fetches ((e.loadWithin steps path).exchanges handle s)).map Prod.fst =
        (e.stages handle steps (Load.begin e.library path) s).filterMap e.requestFor? ∧
      (e.asked handle steps path s).Nodup) ∧
    (∀ name ∈ e.library.loaded, ∀ uses t steps path' t',
      name ∉ ((e.after uses).run handle t).1.asked handle steps path' t') ∧
    ∀ steps e' s', (e.loadWithin steps path).run handle s = ((.ok (), e'), s') → ∀ uses t steps' t',
      let later := ((e'.after uses).run handle t).1
      (later.loadWithin steps' path).exchanges handle t' = [] ∧
        (later.loadWithin steps' path).run handle t' = ((.ok (), later), t') := by
  refine ⟨?_, fun steps => ?_, ?_, ?_⟩
  · obtain ⟨steps, outcome, e', s', hdone, hrun⟩ := exists_loadWithin_eq (offers_of_serves h e) path s
    refine ⟨steps, outcome, e', s', ?_, hrun⟩
    rintro rfl
    exact hdone
  · exact ⟨fetches_carryOn handle path steps e _ s, nodup_asked handle steps e path s⟩
  · intro name hname uses t steps path' t'
    exact not_mem_asked ((after_within handle e uses t).loaded hname) handle steps path' t'
  · intro steps e' s' hrun uses t steps' t' later
    have hcompiled : path ∈ e'.library.compiled := by
      have hof := (loadWithin_within handle e steps path s).2
      rw [hrun] at hof
      exact hof rfl
    have hlater : path ∈ later.library.compiled := (after_within handle e' uses t).compiled hcompiled
    rw [loadWithin_of_compiled hlater]
    exact ⟨rfl, rfl⟩

theorem serves_secondMissing :
    Serves (serving Account.secondMissing) Account.secondMissing ["https://e.c/t/a.html", "https://e.c/t/b.html"] := by
  refine ⟨fun _ _ => rfl, fun address response hresponse _ => ?_⟩
  unfold Account.secondMissing at hresponse
  split at hresponse
  · next ha => exact ha ▸ List.mem_cons_self
  · split at hresponse
    · next hb => exact hb ▸ List.mem_cons_of_mem _ List.mem_cons_self
    · cases hresponse

/-- A template has two partials, and only the first one is there. Its load fails, and the next one asks for the second only.
The first one is loaded as a template too, and then it is there. -/
theorem loadWithin_spec_of_missing :
    let handle := serving Account.secondMissing
    let e := (used handle rootCache "t" () [.load 9 "t/a.html"]).1
    Serves handle Account.secondMissing ["https://e.c/t/a.html", "https://e.c/t/b.html"] ∧
    (∃ steps outcome e' s', outcome ≠ .error (.endless "t/a.html") ∧
      ∀ more, (e.loadWithin (steps + more) "t/a.html").run handle () = ((outcome, e'), s')) ∧
    "b" ∈ e.library.loaded ∧ e.asked handle 9 "t/a.html" () = ["c"] ∧ "b" ∉ e.asked handle 9 "t/a.html" () ∧
    ((e.loadWithin 9 "t/b.html").run handle ()).1.1 = .ok () ∧
    (((e.loadWithin 9 "t/b.html").run handle ()).1.2.loadWithin 9 "t/b.html").exchanges handle () = [] := by
  intro handle e
  have hb : "b" ∈ e.library.loaded := by decide +kernel
  have hasked : e.asked handle 9 "t/a.html" () = ["c"] := by decide +kernel
  have hok : ((e.loadWithin 9 "t/b.html").run handle ()).1.1 = .ok () := by decide +kernel
  clear_value e
  obtain ⟨hends, -, honce, -⟩ := loadWithin_spec serves_secondMissing e "t/a.html" ()
  obtain ⟨-, -, -, hthere⟩ := loadWithin_spec serves_secondMissing e "t/b.html" ()
  refine ⟨serves_secondMissing, hends, hb, hasked, honce "b" hb [] () 9 "t/a.html" (), hok, ?_⟩
  exact (hthere 9 _ _ (Prod.ext (Prod.ext hok rfl) rfl) [] () 9 ()).1

end Engine
end EdgeWorker.Template
