import EdgeWorker.Proofs.Cache.Current
import EdgeWorker.Proofs.Cache.Snapshot
import EdgeWorker.Proofs.Host.Looking
import EdgeWorker.Proofs.Template.Run

/-!
Engines that differ in their cache alone.

The cache of an engine is only asked for the source of a template. Once a load has it, the engine asks for nothing but
partials (`runs_next`), and goes on as it would with another cache (`carryOn_recached`). So an engine that finds the
answer of the network in its cache, and one that finds nothing and asks the network, make the same page or both fail
(`renderWithin_alike`). The other one takes one step more, and one request.
-/

namespace EdgeWorker.Template

open EdgeWorker.Action EdgeWorker.Host EdgeWorker.Cache EdgeWorker.Json

/-- The load has the source of its template. -/
def Load.HasSource : Load → Prop
  | .atPart .. => True
  | .done _ => True
  | _ => False

theorem Load.hasSource_advance (l : Library) (path source : String) (frames : List Frame) :
    (advance l path source frames).2.2.HasSource := by
  unfold advance
  split
  · trivial
  · trivial
  · split <;> trivial

theorem Load.hasSource_afterPart (l : Library) (path source name : String) (frames : List Frame)
    (text : Except Error String) : (afterPart l path source name frames text).2.2.HasSource := by
  cases text with
  | error x => exact True.intro
  | ok text => exact hasSource_advance l path source _

namespace Engine

variable {e : Engine} {c : Current} {path : String} {load : Load} {P : Question → Prop}

/-- The question is for a partial, or for a log record. -/
def Seeks (e : Engine) : Question → Prop
  | .fetch r => ∃ name url, e.cache.scope.resolve (e.partialPath name) = .ok url ∧ Fetch.getRequest url = .ok r
  | .log _ => True
  | _ => False

theorem next_atPart (e : Engine) (path source name : String) (frames : List Frame) :
    e.next (.atPart path source name frames) = (e.fetched (e.partialPath name)).run >>= fun text =>
      pure (Load.afterPart e.library path source name frames text) := rfl

theorem next_done (e : Engine) (outcome : Except Error Unit) :
    e.next (.done outcome) = .done (e.library, [], .done outcome) := rfl

/-- With the source of its template a load asks for nothing but a partial, and keeps the source. -/
theorem runs_next (h : load.HasSource) : (e.next load).Runs e.Seeks fun next => next.2.2.HasSource := by
  cases load with
  | atPart path source name frames =>
    have hasks : Host.Asks e.Seeks (e.fetched (e.partialPath name)).run := asks_fetched fun url r hurl hr => ⟨name, url, hurl, hr⟩
    rw [next_atPart]
    generalize (e.fetched (e.partialPath name)).run = fetch at hasks ⊢
    exact hasks.runs_bind fun text => runs_pure (Load.hasSource_afterPart e.library path source name frames text)
  | done outcome =>
    rw [next_done]
    exact h
  | _ => exact h.elim

/-- The cache of an engine plays no part from then on. -/
theorem next_recached (hc : c.scope = e.cache.scope) (h : load.HasSource) :
    ({ e with cache := c } : Engine).next load = e.next load := by
  have hfetched (path : String) : ({ e with cache := c } : Engine).fetched path = e.fetched path := by
    unfold fetched
    dsimp only
    rw [hc]
  cases load with
  | atPart path source name frames =>
    rw [next_atPart, next_atPart, hfetched]
    rfl
  | done outcome => rfl
  | _ => exact h.elim

theorem carryOn_recached (hc : c.scope = e.cache.scope) (h : load.HasSource) (steps : Nat) :
    carryOn path steps { e with cache := c } load =
      carryOn path steps e load >>= fun p => pure (p.1, { p.2 with cache := c }) := by
  induction steps generalizing e load with
  | zero => cases load <;> rfl
  | succ steps ih =>
    have hgo : (({ e with cache := c } : Engine).next load >>= fun next => report next.2.1 >>= fun _ =>
          carryOn path steps { e with cache := c, library := next.1 } next.2.2) =
        (e.next load >>= fun next => report next.2.1 >>= fun _ =>
          carryOn path steps { e with library := next.1 } next.2.2) >>= fun p => pure (p.1, { p.2 with cache := c }) := by
      rw [next_recached hc h, LawfulMonad.bind_assoc]
      refine (runs_next h).bind_congr fun next hnext => ?_
      rw [LawfulMonad.bind_assoc]
      congr 1
      funext _
      exact ih (e := { e with library := next.1 }) hc hnext
    cases load with
    | done outcome => rfl
    | atPart => exact hgo
    | _ => exact h.elim

/-! ### Pages -/

variable {steps : Nat} {data : Value} {next : Library × List Event × Load} {network : Http.Request → Except Fetch.Error Http.Response}

/-- What is left of a page behind a step of its load. -/
def finish (e : Engine) (steps : Nat) (path : String) (data : Value) (next : Library × List Event × Load) :
    Job (Except Error String) := do
  report next.2.1
  let loaded ← carryOn path steps { e with library := next.1 } next.2.2
  return loaded.1.bind fun _ => loaded.2.page path data

theorem carryOn_atCache : carryOn path (steps + 1) e (.atCache path) = (e.cached path).run >>= fun text =>
    report (Load.afterCache e.library path text).2.1 >>= fun _ =>
      carryOn path steps { e with library := (Load.afterCache e.library path text).1 } (Load.afterCache e.library path text).2.2 :=
  LawfulMonad.bind_assoc (e.cached path).run _ _

theorem carryOn_atNetwork : carryOn path (steps + 1) e (.atNetwork path) = (e.fetched path).run >>= fun text =>
    report (Load.afterSource e.library path text).2.1 >>= fun _ =>
      carryOn path steps { e with library := (Load.afterSource e.library path text).1 } (Load.afterSource e.library path text).2.2 :=
  LawfulMonad.bind_assoc (e.fetched path).run _ _

theorem renderWithin_succ (hl : e.library.isCompiled path = false) : (e.renderWithin (steps + 1) path data >>= fun p => pure p.1) =
    (e.cached path).run >>= fun text => e.finish steps path data (Load.afterCache e.library path text) := by
  have hbegin : Load.begin e.library path = .atCache path := by rw [Load.begin, hl, if_neg nofun]
  unfold renderWithin loadWithin finish
  rw [hbegin, carryOn_atCache, LawfulMonad.bind_assoc, LawfulMonad.bind_assoc]
  congr 1
  funext text
  rw [LawfulMonad.bind_assoc]
  congr 1
  funext _
  congr 1
  funext loaded
  obtain ⟨x | ⟨⟩, e'⟩ := loaded <;> rfl

theorem finish_atNetwork : e.finish (steps + 1) path data (e.library, [], .atNetwork path) =
    (e.fetched path).run >>= fun text => e.finish steps path data (Load.afterSource e.library path text) := by
  have hfirst : e.finish (steps + 1) path data (e.library, [], .atNetwork path) =
      carryOn path (steps + 1) e (.atNetwork path) >>= fun loaded =>
        pure (loaded.1.bind fun _ => loaded.2.page path data) := rfl
  rw [hfirst, carryOn_atNetwork, LawfulMonad.bind_assoc]
  congr 1
  funext text
  rw [LawfulMonad.bind_assoc]
  rfl

theorem finish_error (x : Error) : e.finish steps path data (e.library, [], .done (.error x)) = pure (.error x) := by
  unfold finish
  cases steps <;> rfl

theorem finish_recached (hc : c.scope = e.cache.scope) (h : next.2.2.HasSource) :
    ({ e with cache := c } : Engine).finish steps path data next = e.finish steps path data next := by
  have hcarry : carryOn path steps { e with library := next.1, cache := c } next.2.2 = _ :=
    carryOn_recached (e := { e with library := next.1 }) hc h steps
  unfold finish
  congr 1
  funext _
  dsimp only at hcarry ⊢
  rw [hcarry, LawfulMonad.bind_assoc]
  rfl

theorem seeks_library (l : Library) : ({ e with library := l } : Engine).Seeks = e.Seeks := by
  funext q
  cases q <;> rfl

theorem asks_carryOn_of_hasSource (h : load.HasSource) (l : Library) :
    Host.Asks e.Seeks (carryOn path steps { e with library := l } load) := by
  rw [← seeks_library l]
  induction steps generalizing l load with
  | zero => cases load <;> exact asks_pure _
  | succ steps ih =>
    have hgo : Host.Asks ({ e with library := l } : Engine).Seeks (({ e with library := l } : Engine).next load >>= fun next =>
        report next.2.1 >>= fun _ => carryOn path steps { e with library := next.1 } next.2.2) := by
      refine asks_bind_of_runs (runs_next h) fun next hnext => (asks_report (fun _ _ => trivial) _).bind fun _ => ?_
      rw [seeks_library, ← seeks_library next.1]
      exact ih hnext next.1
    cases load with
    | done outcome => exact asks_pure _
    | atPart => exact hgo
    | _ => exact h.elim

theorem asks_finish (h : next.2.2.HasSource) : Host.Asks e.Seeks (e.finish steps path data next) :=
  (asks_report (fun _ _ => trivial) _).bind fun _ => (asks_carryOn_of_hasSource h _).bind fun _ => asks_pure _

/-! ### Sources -/

variable {look look' : String → Option Entry} {admits : Http.Request → Except Fetch.Error Http.Response → Prop} {url : Url}
  {request : Http.Request} {response : Http.Response}

/-- What an engine makes of an entry of its cache. -/
theorem leads_cached (hurl : e.cache.scope.resolve path = .ok url) :
    Host.Leads (looking e.cache.generation look admits) (e.cached path).run
      (fun source => source = (look (cacheKey url)).elim (.ok none) fun entry =>
        (entry.text.mapError fun x => Error.source path (.cache x)).map some) [] := by
  intro before
  have hresolve : e.cache.resolve path = .ok url := Current.resolve_eq_ok.2 hurl
  unfold cached
  refine Host.Ensures.attempt (R := fun found after => found = .ok (look (cacheKey url)) ∧ after = before) ?_ ?_ ?_
  · refine ensures_withError.2 ?_
    unfold Current.entryOf?
    rw [hresolve, settled_bind]
    exact ensures_looked.2 ⟨rfl, rfl⟩
  · rintro found _ ⟨hfound, rfl⟩
    cases hfound
    rw [List.append_nil]
    cases look (cacheKey url) with
    | none => exact ensures_pure.2 ⟨rfl, rfl⟩
    | some entry =>
      unfold orFault
      refine Host.Ensures.settle (fun text htext => ensures_pure.2 ⟨?_, rfl⟩) fun x hx => ⟨?_, rfl⟩
      · exact (congrArg (Except.map some) htext).symm
      · exact (congrArg (Except.map some) hx).symm
  · rintro x _ ⟨hx, -⟩
    cases hx

/-- What an engine makes of an answer of the network. -/
theorem leads_fetched (hurl : e.cache.scope.resolve path = .ok url) (hrequest : Fetch.getRequest url = .ok request)
    (hanswer : network request = .ok response) (hsuccess : response.isSuccess) (g : String) :
    Host.Leads (looking g look (Answering network)) (e.fetched path).run
      (· = response.text.mapError fun x => Error.source path (.fetch x)) [(request, network request)] := by
  intro before
  unfold fetched orFault
  rw [hurl]
  simp only [Except.mapError, settled_bind, hrequest]
  refine Host.Ensures.attempt (R := fun found after => found = .ok response ∧ after = before ++ [(request, network request)])
    ?_ ?_ ?_
  · refine ensures_withError.2 (ensures_sent.2 ?_)
    rintro _ rfl
    rw [hanswer]
    exact ⟨rfl, rfl⟩
  · rintro found _ ⟨hfound, rfl⟩
    cases hfound
    rw [if_neg (by simp [hsuccess])]
    cases response.text with
    | ok text => exact ensures_pure.2 ⟨rfl, rfl⟩
    | error x => exact ensures_pure.2 ⟨rfl, rfl⟩
  · rintro x _ ⟨hx, -⟩
    cases hx

/-- An entry has the text of the answer that it keeps, or neither has one. -/
theorem text_ofResponse (response : Http.Response) (now : Timestamp) :
    (∃ text, (Entry.ofResponse response now).text = .ok text ∧ response.text = .ok text) ∨
      ∃ x y, (Entry.ofResponse response now).text = .error x ∧ response.text = .error y := by
  unfold Entry.text Http.Response.text
  rw [Entry.bytes_ofResponse]
  dsimp only
  cases Text.ofBytes response.body with
  | ok text => exact .inl ⟨text, rfl, rfl⟩
  | error x => exact .inr ⟨_, _, rfl, rfl⟩

theorem finish_zero : e.finish 0 path data (e.library, [], .atNetwork path) = pure (.error (.endless path)) := rfl

theorem renderWithin_zero (hl : e.library.isCompiled path = false) :
    (e.renderWithin 0 path data >>= fun p => pure p.1) = pure (.error (.endless path)) := by
  unfold renderWithin loadWithin Load.begin
  rw [hl, if_neg nofun]
  rfl

variable {entry : Entry} {result : Except Error String} {parts : Fetches}

/-- A page of a template that the cache has. -/
theorem leads_renderWithin_found (hl : e.library.isCompiled path = false) (hurl : e.cache.scope.resolve path = .ok url)
    (hlook : look (cacheKey url) = some entry)
    (h : Host.Leads (looking e.cache.generation look admits) (e.finish steps path data (Load.afterCache e.library path
      ((entry.text.mapError fun x => Error.source path (.cache x)).map some))) (· = result) parts) :
    Host.Leads (looking e.cache.generation look admits) (e.renderWithin (steps + 1) path data) (fun p => p.1 = result) parts := by
  refine Leads.of_fst ?_
  rw [renderWithin_succ hl]
  refine (leads_cached hurl).bind_nil ?_
  rintro _ rfl
  rw [hlook]
  exact h

/-- A page of a template that the cache does not have. -/
theorem leads_renderWithin_missed (hl : e.library.isCompiled path = false) (hurl : e.cache.scope.resolve path = .ok url)
    (hlook : look (cacheKey url) = none)
    (h : Host.Leads (looking e.cache.generation look admits) (e.finish steps path data (e.library, [], .atNetwork path))
      (· = result) parts) :
    Host.Leads (looking e.cache.generation look admits) (e.renderWithin (steps + 1) path data) (fun p => p.1 = result) parts := by
  refine Leads.of_fst ?_
  rw [renderWithin_succ hl]
  refine (leads_cached hurl).bind_nil ?_
  rintro _ rfl
  rw [hlook]
  exact h

/-- The network has it. -/
theorem leads_renderWithin_sent (hl : e.library.isCompiled path = false) (hurl : e.cache.scope.resolve path = .ok url)
    (hrequest : Fetch.getRequest url = .ok request) (hanswer : network request = .ok response)
    (hsuccess : response.isSuccess) (hlook : look (cacheKey url) = none)
    (h : Host.Leads (looking e.cache.generation look (Answering network)) (e.finish steps path data
      (Load.afterSource e.library path (response.text.mapError fun x => Error.source path (.fetch x)))) (· = result) parts) :
    Host.Leads (looking e.cache.generation look (Answering network)) (e.renderWithin (steps + 1 + 1) path data)
      (fun p => p.1 = result) ((request, network request) :: parts) := by
  refine leads_renderWithin_missed hl hurl hlook ?_
  rw [finish_atNetwork]
  refine (leads_fetched hurl hrequest hanswer hsuccess _).bind ?_
  rintro _ rfl
  exact h

variable {now : Timestamp}

/-- An engine finds the answer of the network to the request for a template in its cache, and another one finds nothing
there. Then both make the same page of the template, or neither does. The other one takes one step more, and what it
fetches more is the source of the template. -/
theorem renderWithin_alike {e' : Engine} (he' : e' = { e with cache := c }) (hc : c.scope = e.cache.scope)
    (hl : e.library.isCompiled path = false)
    (hurl : e.cache.scope.resolve path = .ok url) (hrequest : Fetch.getRequest url = .ok request)
    (hanswer : network request = .ok response) (hsuccess : response.isSuccess)
    (hlook : look (cacheKey url) = some (Entry.ofResponse response now)) (hlook' : look' (cacheKey url) = none)
    (steps : Nat) (data : Value) : ∃ result result' parts all,
      (result = result' ∨ (∃ x, result = .error x) ∧ ∃ x, result' = .error x) ∧
      Host.Leads (looking e.cache.generation look (Answering network)) (e.renderWithin steps path data)
        (fun p => p.1 = result) parts ∧
      Host.Leads (looking e'.cache.generation look' (Answering network)) (e'.renderWithin (steps + 1) path data)
        (fun p => p.1 = result') all ∧
      (∀ x ∈ parts, e.Seeks (.fetch x.1)) ∧ (parts = [] ∧ all = [] ∨ all = (request, network request) :: parts) := by
  have hl' : e'.library.isCompiled path = false := by rwa [he']
  have hurl' : e'.cache.scope.resolve path = .ok url := by rwa [he', hc]
  cases steps with
  | zero =>
    -- there is a step left to ask for the source, and none to go on with it
    refine ⟨.error (.endless path), .error (.endless path), [], [], .inl rfl, Leads.of_fst ?_,
      leads_renderWithin_missed hl' hurl' hlook' ?_, List.forall_mem_nil _, .inl ⟨rfl, rfl⟩⟩
    · rw [renderWithin_zero hl]
      exact leads_pure rfl
    · rw [finish_zero]
      exact leads_pure rfl
  | succ steps =>
    rcases text_ofResponse response now with ⟨text, hstored, hsent⟩ | ⟨x, y, hstored, hsent⟩
    · have hnext : (Load.withSource e.library path text).2.2.HasSource := Load.hasSource_advance e.library path text _
      have hasks : Host.Asks e.Seeks (e.finish steps path data (Load.withSource e.library path text)) := asks_finish hnext
      have hsends : Host.Asks Question.Sends (e.finish steps path data (Load.withSource e.library path text)) :=
        hasks.mono fun q hq => by cases q <;> first | exact hq.elim | trivial
      refine ⟨outcome network (e.finish steps path data (Load.withSource e.library path text)), _,
        sent network (e.finish steps path data (Load.withSource e.library path text)), _, .inl rfl,
        leads_renderWithin_found hl hurl hlook ?_, leads_renderWithin_sent hl' hurl' hrequest hanswer hsuccess hlook' ?_,
        forall_sent hasks, .inr rfl⟩
      · rw [hstored]
        exact leads_sends hsends
      · have hlibrary : e'.library = e.library := by rw [he']
        have hsame : e'.finish steps path data (Load.withSource e.library path text) = _ := he' ▸ finish_recached hc hnext
        rw [hsent, hlibrary]
        exact hsame.symm ▸ leads_sends hsends
    · refine ⟨.error (.source path (.cache x)), .error (.source path (.fetch y)), [], _, .inr ⟨⟨_, rfl⟩, _, rfl⟩,
        leads_renderWithin_found hl hurl hlook ?_, leads_renderWithin_sent hl' hurl' hrequest hanswer hsuccess hlook' ?_,
        List.forall_mem_nil _, .inr rfl⟩
      · have hend : e.finish steps path data (Load.afterCache e.library path (.error (.source path (.cache x)))) = _ :=
          finish_error _
        rw [hstored]
        exact hend ▸ leads_pure rfl
      · have hend : e'.finish steps path data (Load.afterSource e'.library path (.error (.source path (.fetch y)))) = _ :=
          finish_error _
        rw [hsent]
        exact hend ▸ leads_pure rfl

end Engine
end EdgeWorker.Template
