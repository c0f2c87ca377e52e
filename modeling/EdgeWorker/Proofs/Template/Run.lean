import EdgeWorker.Proofs.Host.Asks
import EdgeWorker.Proofs.Template.Verdict
import EdgeWorker.Template.Engine

/-!
An engine in its surroundings.

* `Engine.site` — what an engine would be told if it asked now; a step of the engine is a step over this site
  (`run_next`), and its errors are about the paths that were asked for;
* `Steady` — surroundings whose answers to an engine do not change, so that its site does not either (`site_eq`);
* `Engine.turn` — a load is carried on turn by turn, and what every turn keeps holds in the end (`carryOn_invariant`);
* `Engine.Returns` — a call comes back with an outcome, and leaves an engine.
-/

namespace EdgeWorker.Template

open EdgeWorker.Host

/-- An error of reading the source at a path. -/
def Error.IsAt (path : String) (e : Error) : Prop :=
  (∃ fault, e = .source path fault) ∨ ∃ status, e = .status path status

instance instDecidableEqExcept {ε α : Type} [DecidableEq ε] [DecidableEq α] : DecidableEq (Except ε α)
  | .ok a, .ok b => decidable_of_iff (a = b) (by rw [Except.ok.injEq])
  | .error d, .error e => decidable_of_iff (d = e) (by rw [Except.error.injEq])
  | .ok _, .error _ => isFalse nofun
  | .error _, .ok _ => isFalse nofun

deriving instance DecidableEq for Load

variable {σ : Type} {handle : Handler σ} {P : Question → Prop}

namespace Engine

variable (e : Engine) (path : String)

/-! ### What is asked -/

theorem tries_orFault {ε α : Type} (fault : ε → SourceFault) (result : Except ε α) :
    Tries P (Error.IsAt path) (orFault path fault result) := by
  refine tries_settled fun x hx => ?_
  cases result with
  | ok a => cases hx
  | error y => cases hx; exact .inl ⟨_, rfl⟩

theorem tries_at {ε α : Type} (fault : ε → SourceFault) {m : Attempt ε α} (h : Tries P (fun _ => True) m) :
    Tries P (Error.IsAt path) (withError (fun e => .source path (fault e)) m) :=
  tries_withError h fun e _ => .inl ⟨fault e, rfl⟩

theorem tries_cached (hg : ∀ u, P (.store (.get e.cache.generation u))) : Tries P (Error.IsAt path) (e.cached path) := by
  unfold Engine.cached
  refine tries_bind (tries_at path .cache ?_) fun found => ?_
  · exact tries_bind (tries_settled fun _ _ => trivial) fun _ => tries_store (hg _)
  · cases found with
    | none => exact tries_pure _
    | some entry => exact tries_bind (tries_orFault path _ _) fun _ => tries_pure _

theorem tries_fetched (hf : ∀ r, P (.fetch r)) : Tries P (Error.IsAt path) (e.fetched path) := by
  unfold Engine.fetched
  refine tries_bind (tries_orFault path .address _) fun url => ?_
  refine tries_bind (tries_orFault path .fetch _) fun request => ?_
  refine tries_bind (tries_at path .fetch (tries_fetch (hf request))) fun response => ?_
  dsimp only
  split
  · exact tries_bind (tries_throw (.inr ⟨_, rfl⟩)) fun _ => tries_orFault path _ _
  · exact tries_orFault path _ _

theorem asks_report (hlog : ∀ record, record.target = Log.templateTarget → P (.log record)) (events : List Event) :
    Host.Asks P (report events) := by
  unfold report
  induction events with
  | nil => exact asks_pure _
  | cons event events ih =>
    refine Host.Asks.bind ?_ fun _ => ih
    cases event <;> exact asks_log (hlog _ rfl)

variable {e path}

theorem asks_fetched (h : ∀ url r, e.cache.scope.resolve path = .ok url → Fetch.getRequest url = .ok r → P (.fetch r)) :
    Host.Asks P (e.fetched path).run := by
  unfold fetched orFault
  cases hurl : e.cache.scope.resolve path with
  | error x => exact asks_pure _
  | ok url =>
    cases hr : Fetch.getRequest url with
    | error x =>
      simp only [Except.mapError, settled_bind, hr]
      exact asks_pure _
    | ok r =>
      simp only [Except.mapError, settled_bind, hr]
      refine Host.Asks.attempt (asks_fetch (h url r hurl hr)).withError fun response => ?_
      split
      · exact (asks_settled _).attempt fun _ => asks_settled _
      · exact asks_settled _

/-- A step asks for an entry of the current generation, or gets what is at an address. -/
theorem asks_next (hg : ∀ u, P (.store (.get e.cache.generation u)))
    (hf : ∀ url r, Fetch.getRequest url = .ok r → P (.fetch r)) (load : Load) : Host.Asks P (e.next load) := by
  have hfetched (path : String) : Host.Asks P (e.fetched path).run := asks_fetched fun url r _ => hf url r
  unfold next
  cases load with
  | atCache path => exact (e.tries_cached path hg).asks.bind fun _ => asks_pure _
  | atNetwork path => exact (hfetched path).bind fun _ => asks_pure _
  | atPart path source name frames => exact (hfetched _).bind fun _ => asks_pure _
  | done outcome => exact asks_pure _

/-- So does a load, however many steps it takes; apart from that it writes log records. -/
theorem asks_carryOn (hg : ∀ u, P (.store (.get e.cache.generation u)))
    (hf : ∀ url r, Fetch.getRequest url = .ok r → P (.fetch r))
    (hlog : ∀ record, record.target = Log.templateTarget → P (.log record)) (steps : Nat) (load : Load) :
    Host.Asks P (carryOn path steps e load) := by
  induction steps generalizing e load with
  | zero => cases load <;> exact asks_pure _
  | succ steps ih =>
    have hgo : Host.Asks P (e.next load >>= fun next => report next.2.1 >>= fun _ =>
        carryOn path steps { e with library := next.1 } next.2.2) :=
      (asks_next hg hf load).bind fun next => (asks_report hlog _).bind fun _ => ih (e := { e with library := next.1 }) hg _
    cases load with
    | done outcome => exact asks_pure _
    | _ => exact hgo

variable (e path)

/-! ### The site of an engine -/

/-- What an engine would be told if it asked now. -/
def site (e : Engine) (handle : Handler σ) (s : σ) : Site where
  cached path := ((e.cached path).run.run handle s).1
  fetched path := ((e.fetched path).run.run handle s).1
  partialPath := e.partialPath

/-- A step of an engine is a step over its site. -/
theorem run_next (load : Load) (s : σ) :
    ((e.next load).run handle s).1 = load.step (e.site handle s) e.library := by
  cases load with
  | done outcome => rfl
  | _ => simp only [next, Action.run_do, Action.run_pure, Load.step, site]

theorem isAt_of_cached {s : σ} {x : Error} (h : (e.site handle s).cached path = .error x) : x.IsAt path :=
  (tries_cached (P := fun _ => True) e path fun _ => trivial).runs.result handle s x h

theorem isAt_of_fetched {s : σ} {x : Error} (h : (e.site handle s).fetched path = .error x) : x.IsAt path :=
  (tries_fetched (P := fun _ => True) e path fun _ => trivial).runs.result handle s x h

end Engine

/-- Surroundings whose answers to an engine are always the same: what the network answers to a request, and what the
cache holds at an address. -/
structure Steady (handle : Handler σ) : Prop where
  fetch : ∀ r s s', (handle (.fetch r) s).1 = (handle (.fetch r) s').1
  get : ∀ g u s s', (handle (.store (.get g u)) s).1 = (handle (.store (.get g u)) s').1

theorem Steady.site_eq (h : Steady handle) (e : Engine) (s s' : σ) : e.site handle s = e.site handle s' := by
  simp only [Engine.site, Site.mk.injEq, and_true]
  constructor
  · funext path
    exact Action.run_fst_eq (Engine.tries_cached e path (h.get _)).runs s s'
  · funext path
    exact Action.run_fst_eq (Engine.tries_fetched e path h.fetch).runs s s'

/-- Surroundings with nothing in the cache and a network that answers by the address alone. -/
def serving (network : String → Except Fetch.Error Http.Response) : Handler Unit
  | .fetch r, _ => (network r.target.text, ())
  | .store op, _ => ((Cache.Generations.empty.perform op).1, ())
  | .log _, _ => ((), ())
  | .now, _ => (.epoch, ())
  | .clock, _ => (0, ())
  | .freshId, _ => ("", ())

theorem serving_steady (network : String → Except Fetch.Error Http.Response) : Steady (serving network) :=
  ⟨fun _ _ _ => rfl, fun _ _ _ _ => rfl⟩

theorem serving_willing (network : String → Except Fetch.Error Http.Response) : Willing (serving network) :=
  fun op _ => by cases op <;> exact ⟨_, rfl⟩

/-- A network that has one page at every address, which includes itself. -/
def selfIncluding : String → Except Fetch.Error Http.Response :=
  fun _ => .ok (.plain .ok (Text.bytes "\x7b\x7b>a\x7d\x7d"))

def rootCache : Cache.Current := ⟨⟨⟨"https", some ⟨"", none, "e.c", none⟩, .segments [""], none, none⟩⟩, "g"⟩

/-! ### Turns -/

namespace Engine

/-- One turn of a load: a step, and the records of what happened in it. -/
def turn (handle : Handler σ) (e : Engine) (load : Load) (s : σ) : Engine × Load × σ :=
  let next := (e.next load).run handle s
  ({ e with library := next.1.1 }, next.1.2.2, ((report next.1.2.1).run handle next.2).2)

variable {e : Engine} {load : Load} {path : String} {s s' : σ} {site : Site}

theorem turn_library : (e.turn handle load s).1.library = (load.step (e.site handle s) e.library).1 := by
  rw [← run_next]; rfl

theorem turn_load : (e.turn handle load s).2.1 = (load.step (e.site handle s) e.library).2.2 := by
  rw [← run_next]; rfl

theorem turn_site : (e.turn handle load s).1.site handle s' = e.site handle s' := rfl

@[simp] theorem run_carryOn_done (steps : Nat) (outcome : Except Error Unit) :
    (carryOn path steps e (.done outcome)).run handle s = ((outcome, e), s) := by
  cases steps <;> rfl

theorem run_carryOn_zero (h : load.Waiting) :
    (carryOn path 0 e load).run handle s = ((.error (.endless path), e), s) := by
  cases load with
  | done => exact h.elim
  | _ => rfl

/-- A load is carried on turn by turn. -/
theorem run_carryOn_succ (steps : Nat) (h : load.Waiting) :
    (carryOn path (steps + 1) e load).run handle s =
      (carryOn path steps (e.turn handle load s).1 (e.turn handle load s).2.1).run handle
        (e.turn handle load s).2.2 := by
  cases load with
  | done => exact h.elim
  | _ => simp only [carryOn, Action.run_do, turn]

/-- What every turn keeps holds in the end, or where a load was cut off. -/
theorem carryOn_invariant (handle : Handler σ) {I : Engine → Load → Prop}
    (hturn : ∀ {e load} (s : σ), load.Waiting → I e load → I (e.turn handle load s).1 (e.turn handle load s).2.1)
    (h : I e load) (steps : Nat) (path : String) (s : σ) :
    ∃ e' load', (((carryOn path steps e load).run handle s).1 = (.error (.endless path), e') ∨
      ∃ outcome, load' = .done outcome ∧ ((carryOn path steps e load).run handle s).1 = (outcome, e')) ∧ I e' load' := by
  induction steps generalizing e load s with
  | zero =>
    rcases load.waiting_or_done with hw | ⟨outcome, rfl⟩
    · exact ⟨e, load, .inl (by rw [run_carryOn_zero hw]), h⟩
    · exact ⟨e, .done outcome, .inr ⟨outcome, rfl, by rw [run_carryOn_done]⟩, h⟩
  | succ steps ih =>
    rcases load.waiting_or_done with hw | ⟨outcome, rfl⟩
    · rw [run_carryOn_succ steps hw]
      exact ih (hturn s hw h) _
    · exact ⟨e, .done outcome, .inr ⟨outcome, rfl, by rw [run_carryOn_done]⟩, h⟩

/-- What is cut off is a load, never the page of a template that was loaded. -/
theorem page_ne_endless {data : Json.Value} (p : String) : e.page path data ≠ .error (.endless p) := by
  unfold page
  split
  · simp
  · split <;> simp

/-- A call comes back with an outcome and leaves an engine; it was not cut off. -/
def Returns (handle : Handler σ) (e : Engine) (s : σ) (path : String)
    (outcome : Except Error Unit) (e' : Engine) : Prop :=
  outcome ≠ .error (.endless path) ∧ ∃ steps, ((e.loadWithin steps path).run handle s).1 = (outcome, e')

end Engine
end EdgeWorker.Template
