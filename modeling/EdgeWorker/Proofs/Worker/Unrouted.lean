import EdgeWorker.Proofs.Host.Looking
import EdgeWorker.Proofs.Worker.Answer

/-!
Requests that do not go by the routes.

* `asks_unrouted` — of the storage such a request asks at most for the entry of its own address, and of the network at
  most for its own answer;
* `Worker.storedFor` — the response that is stored for a request;
* `ensures_unrouted` — an active worker answers with it, or else with what the network answers, which is not asked
  otherwise.
-/

namespace EdgeWorker.Worker

open EdgeWorker.Action EdgeWorker.Host EdgeWorker.Cache EdgeWorker.Http

variable {admits : Request → Except Fetch.Error Response → Prop} {look : String → Option Entry} {w : Worker} {r : Request}
  {lines : Log.Lines}

/-! ### What is asked -/

/-- The question is for the entry of the address of a request, for the answer of the network to it, or none to either. -/
def Concerns (w : Worker) (r : Request) : Question → Prop
  | .store op => isCacheable r ∧ ∃ url, w.scope.resolve r.target.text = .ok url ∧ op = .get w.cache.generation (cacheKey url)
  | .fetch r' => r' = r
  | _ => True

theorem concerns_of_isAside {q : Question} (h : q.IsAside) : Concerns w r q := by
  cases q <;> first | exact h.elim | trivial

theorem concerns_write (level : Log.Level) (message : String) (fields : List (String × Json.Value)) :
    Asks (Concerns w r) (lines.write level message fields) := (lines.asks_write _ _ _).mono fun _ => concerns_of_isAside

theorem concerns_forward : Asks (Concerns w r) (forward r).run :=
  Asks.withError (asks_fetch (P := Concerns w r) rfl)

theorem concerns_cachedFor : Asks (Concerns w r) (w.cachedFor lines r) :=
  asks_cachedFor (fun level message fields _ => concerns_write level message fields) (fun url hc hurl => ⟨hc, url, hurl, rfl⟩)

theorem asks_unrouted (hr : ¬ w.isRouted r) : Asks (Concerns w r) (w.answer r) := by
  have hunrouted (lines : Log.Lines) : Asks (Concerns w r) (w.answerUnrouted lines r).run := by
    unfold answerUnrouted
    refine concerns_cachedFor.lift.attempt fun cached => ?_
    refine (concerns_write _ _ _).lift.attempt fun _ => ?_
    cases cached with
    | some response => exact asks_pure _
    | none => exact concerns_forward
  unfold answer answerWithin
  refine ((Log.Lines.asks_start _ _ _).mono fun _ => concerns_of_isAside).bind fun lines => ?_
  dsimp only
  split
  · exact (concerns_write _ _ _).bind fun _ => concerns_forward.bind fun _ => asks_pure _
  · exact (hunrouted lines).bind fun _ => asks_pure _

/-! ### What is answered -/

/-- The response that is stored for a request, if the cache is looked up for it. An entry that is no response counts as
none. -/
def storedFor (w : Worker) (look : String → Option Entry) (r : Request) : Option Response :=
  match isCacheable r, w.scope.resolve r.target.text with
  | true, .ok url => (look (cacheKey url)).bind fun entry => entry.response.toOption
  | _, _ => none

theorem leads_responseOf? (c : Current) (url : Url) : Leads (looking c.generation look admits) (c.responseOf? url).run
    (· = match look (cacheKey url) with
      | some entry => entry.response.map some
      | none => .ok none) [] := by
  intro before
  unfold Current.responseOf?
  refine Host.Ensures.attempt (R := fun found after => found = .ok (look (cacheKey url)) ∧ after = before)
    (ensures_looked.2 ⟨rfl, rfl⟩) ?_ (fun e _ h => by cases h.1)
  rintro found _ ⟨hfound, rfl⟩
  cases hfound
  rw [List.append_nil]
  cases look (cacheKey url) with
  | none => exact ensures_pure.2 ⟨rfl, rfl⟩
  | some entry =>
    dsimp only
    exact Host.Ensures.settle (fun response h => ensures_pure.2 ⟨by rw [h]; rfl, rfl⟩) fun e h => ⟨by rw [h]; rfl, rfl⟩

theorem leads_cachedFor : Leads (looking w.cache.generation look admits) (w.cachedFor lines r) (· = w.storedFor look r) [] := by
  unfold cachedFor storedFor
  cases hc : isCacheable r with
  | false => exact leads_pure rfl
  | true =>
    cases hurl : w.scope.resolve r.target.text with
    | error e => exact leads_pure rfl
    | ok url =>
      refine (leads_responseOf? w.cache url).bind_nil ?_
      rintro found rfl
      dsimp only
      cases look (cacheKey url) with
      | none => exact leads_pure rfl
      | some entry =>
        dsimp only [Option.bind_some]
        cases entry.response with
        | ok response => exact leads_pure rfl
        | error e => exact leads_aside_bind (lines.asks_write _ _ _) fun _ => leads_pure rfl

/-- An active worker answers a request that does not go by the routes with what is stored for it, or else with what
the network answers. Only then the network is asked, and only for this. -/
theorem ensures_unrouted (hs : w.phase.serves) (hr : ¬ w.isRouted r) (steps : Nat) (before : Fetches) :
    (w.answerWithin steps r).Ensures (looking w.cache.generation look admits) before
      fun p after => p.2 = w ∧ match w.storedFor look r with
        | some response => p.1 = .ok response ∧ after = before
        | none => ∃ a, admits r a ∧ p.1 = a.mapError .fetch ∧ after = before ++ [(r, a)] := by
  unfold answerWithin
  refine Action.Ensures.bind (ensures_looking_aside (Log.Lines.asks_start _ _ _).runs) ?_
  rintro lines _ ⟨-, rfl⟩
  dsimp only
  rw [if_neg (by simp [hs]), if_neg hr]
  unfold answerUnrouted
  refine Action.Ensures.bind (ensures_lift.2 ?_) fun r _ h => ensures_pure.2 ⟨rfl, h⟩
  refine (leads_cachedFor _).mono ?_
  rintro cached _ ⟨rfl, rfl⟩
  rw [List.append_nil]
  refine ensures_lift.2 ((ensures_looking_aside (lines.asks_write _ _ _).runs).mono ?_)
  rintro _ _ ⟨-, rfl⟩
  cases w.storedFor _ r with
  | some response => exact ensures_pure.2 ⟨rfl, rfl⟩
  | none => exact ensures_withError.2 (ensures_sent.2 fun a ha => ⟨a, ha, rfl, rfl⟩)

end EdgeWorker.Worker
