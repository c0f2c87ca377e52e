import EdgeWorker.Proofs.Host.Serving
import EdgeWorker.Proofs.Log.Entry
import EdgeWorker.Proofs.Rpc.Request
import EdgeWorker.Proofs.Template.Run
import EdgeWorker.Worker.Answer

/-!
Answering a request changes nothing that is stored (`asks_answer`): of the storage, a worker that has its routes
only asks for entries of its generation (`names_answer`). The lines about the request that it writes have fields with names
of their own (`plain_answer`). The same for each of the computations that an answer is put together of.

Of the worker it changes nothing but what its engine has loaded (`yields_answer`).
-/

namespace EdgeWorker

open EdgeWorker.Action EdgeWorker.Host

/-! ### Lines of a log -/

/-- The record is a line about a request in a format, of an entry whose fields have names of their own. -/
def Log.Record.IsLine (format : LogFormat) (record : Record) : Prop := ∃ e : Entry, e.Named ∧
  record = ⟨e.level, requestTarget, match format with
    | .json => e.json
    | .human => e.human, []⟩

/-- The question changes nothing that is stored, and a record about the request is a line in a format. -/
def Host.Question.Plain (format : LogFormat) : Question → Prop
  | .store (.get _ _) => True
  | .store _ => False
  | .log record => record.target = Log.requestTarget → record.IsLine format
  | _ => True

/-- The question is such a one, and of the storage it asks for at most an entry of this generation. -/
def Host.Question.PlainIn (generation : String) (format : LogFormat) (q : Question) : Prop :=
  q.Plain format ∧ q.Names (· = generation)

variable {g : String} {format : LogFormat}

theorem Host.Question.plainIn_get (g url : String) : (Question.store (.get g url)).PlainIn g format :=
  ⟨trivial, fun _ hg => (Option.some.inj hg).symm⟩

theorem Host.Question.Plain.reads {q : Question} (h : q.Plain format) : q.Reads := by
  cases q with
  | store op => cases op <;> exact h
  | _ => trivial

/-- Records of other parts are no lines about requests. -/
theorem Host.Question.plainIn_log {record : Log.Record} (h : record.target ≠ Log.requestTarget) :
    (Question.log record).PlainIn g format :=
  ⟨fun htarget => absurd htarget h, trivial⟩

namespace Log.Lines

theorem asks_start (path : String) (least : Level) (format : LogFormat) : Asks Question.IsAside (start path least format) :=
  (asks_freshId trivial).bind fun _ => (asks_clock trivial).bind fun _ => asks_pure _

theorem asks_write (l : Lines) (level : Level) (message : String) (fields : List (String × Json.Value)) :
    Asks Question.IsAside (l.write level message fields) := by
  unfold write
  refine (asks_clock trivial).bind fun time => ?_
  dsimp only
  split
  · exact asks_log trivial
  · exact asks_pure _

theorem runs_start (path : String) (least : Level) (format : LogFormat) :
    (start path least format).Runs (Question.PlainIn g format) (·.logger.format = format) :=
  (asks_freshId ⟨trivial, trivial⟩).runs_bind fun _ => (asks_clock ⟨trivial, trivial⟩).runs_bind fun _ => runs_pure rfl

/-- Of the fields of a line only the names matter. -/
theorem plainIn_write (l : Lines) (level : Level) (message : String) {fields : List (String × Json.Value)}
    (hfields : ∀ f ∈ fields, f.1 ∉ Entry.reserved) :
    Asks (Question.PlainIn g l.logger.format) (l.write level message fields) := by
  unfold write
  refine (asks_clock ⟨trivial, trivial⟩).bind fun time => ?_
  dsimp only
  split
  · next record hrecord =>
    refine asks_log ⟨fun _ => ?_, trivial⟩
    unfold Logger.record? at hrecord
    split at hrecord
    · cases hrecord
      refine ⟨⟨level, message, l.logger.requestId, l.logger.route, _, some (time - l.begun)⟩,
        ⟨Json.pairwise_foldl_insertMember fields List.Pairwise.nil, fun f hf => hfields f ?_⟩, rfl⟩
      exact (Json.mem_of_mem_foldl_insertMember hf).resolve_right nofun
    · cases hrecord
  · exact asks_pure _

end Log.Lines

/-! ### Pages and calls -/

namespace Template.Engine

theorem plainIn_renderWithin (e : Engine) (steps : Nat) (path : String) (data : Json.Value) :
    Host.Asks (Question.PlainIn e.cache.generation format) (e.renderWithin steps path data) := by
  have hlog (record : Log.Record) (h : record.target = Log.templateTarget) :
      (Question.log record).PlainIn e.cache.generation format :=
    Question.plainIn_log (h ▸ by decide)
  unfold renderWithin loadWithin
  refine (asks_carryOn (Question.plainIn_get _) (fun _ _ _ => ⟨trivial, trivial⟩) hlog steps _).bind fun loaded => ?_
  obtain ⟨x | ⟨⟩, e⟩ := loaded <;> exact asks_pure _

end Template.Engine

/-! ### Answers -/

namespace Worker

variable (w : Worker) (steps : Nat) (r : Http.Request)

theorem plainIn_pageFor (d : Route.Descriptor) (data : Json.Value) :
    Asks (Question.PlainIn w.cache.generation format) (w.pageFor steps d data) := by
  unfold pageFor
  split
  · exact asks_pure _
  · exact (w.engine.plainIn_renderWithin steps _ data).bind fun _ => asks_pure _

theorem plainIn_callFor (binding : String × String) :
    Asks (Question.PlainIn w.cache.generation format) (w.callFor r binding).run := by
  have hlog (record : Log.Record) (h : record.target = Log.rpcTarget) :
      (Question.log record).PlainIn w.cache.generation format :=
    Question.plainIn_log (h ▸ by decide)
  exact (asks_settled _).attempt fun params => (Rpc.asks_invoke (fun _ _ _ _ => ⟨trivial, trivial⟩) hlog _ _ _ params).withError

theorem plainIn_route : Asks (Question.PlainIn w.cache.generation format) (w.route steps r) := by
  unfold route
  split
  · exact asks_pure _
  · next d _ =>
    split
    · exact (w.plainIn_pageFor steps d _).bind fun _ => asks_pure _
    · next binding _ =>
      refine (w.plainIn_callFor r binding).bind fun result => ?_
      cases result with
      | error e => exact asks_pure _
      | ok data =>
        refine (asks_clock ⟨trivial, trivial⟩).bind fun called => ?_
        dsimp only
        split
        · exact asks_pure _
        · exact (w.plainIn_pageFor steps d data).bind fun _ => asks_pure _

theorem responseFields_free (response : Http.Response) (elapsed : Nat) (call : Option Nat) :
    ∀ f ∈ responseFields r response elapsed call, f.1 ∉ Log.Entry.reserved := by
  cases call <;> simp [responseFields, Log.spanField, Log.Entry.reserved]

/-- What a request that goes by the routes is answered with, whatever came of it. -/
def answerTo : Except Error Http.Response → Http.Response
  | .ok response => response
  | .error e => errorResponse e

theorem runs_conclude {r : Http.Request} {P : Question → Prop} {lines : Log.Lines} (hclock : P .clock)
    (hwrite : ∀ level message (fields : List (String × Json.Value)), (∀ f ∈ fields, f.1 ∉ Log.Entry.reserved) →
      Asks P (lines.write level message fields)) (begun : Nat) (handled : Handled) :
    (conclude lines r begun handled).Runs P (· = answerTo handled.response) := by
  unfold conclude
  split
  · next response hok =>
    rw [hok]
    refine (asks_clock hclock).runs_bind fun _ => ?_
    exact (hwrite _ _ _ (responseFields_free r _ _ _)).runs_bind fun _ => runs_pure rfl
  · next path hmissing =>
    rw [hmissing]
    exact (hwrite _ _ _ (by simp [Log.errorField, Log.Entry.reserved])).runs_bind fun _ => runs_pure rfl
  · next e _ hfailed =>
    rw [hfailed]
    refine (asks_clock hclock).runs_bind fun _ => ?_
    exact (hwrite _ _ _ (by simp [Log.errorField, Log.spanField, Log.Entry.reserved])).runs_bind fun _ => runs_pure rfl

/-- The answer follows from what came of a request, and nothing but the line about it is added. -/
theorem aside_conclude (lines : Log.Lines) (begun : Nat) (handled : Handled) :
    (conclude lines r begun handled).Runs Question.IsAside (· = answerTo handled.response) :=
  runs_conclude trivial (fun level message fields _ => lines.asks_write level message fields) begun handled

theorem plainIn_answerRouted (lines : Log.Lines) :
    Asks (Question.PlainIn w.cache.generation lines.logger.format) (w.answerRouted steps lines r) := by
  unfold answerRouted
  refine (asks_clock ⟨trivial, trivial⟩).bind fun begun => ?_
  refine (w.plainIn_route steps r).bind fun handled => ?_
  have hconclude : (conclude lines r begun handled.1).Runs (Question.PlainIn w.cache.generation lines.logger.format) _ :=
    runs_conclude ⟨trivial, trivial⟩ (fun level message _ => lines.plainIn_write level message) begun handled.1
  exact (asks_of_runs hconclude).bind fun _ => asks_pure _

/-- Of the storage the cache is asked for at most the entry of the address of a request. -/
theorem asks_cachedFor {w : Worker} {r : Http.Request} {P : Question → Prop} {lines : Log.Lines}
    (hwrite : ∀ level message (fields : List (String × Json.Value)), (∀ f ∈ fields, f.1 ∉ Log.Entry.reserved) →
      Asks P (lines.write level message fields))
    (hget : ∀ url, isCacheable r → w.scope.resolve r.target.text = .ok url →
      P (.store (.get w.cache.generation (cacheKey url)))) : Asks P (w.cachedFor lines r) := by
  unfold cachedFor
  split
  · exact asks_pure _
  · next hc =>
    split
    · exact asks_pure _
    · next url hurl =>
      have hstored : Asks P (w.cache.responseOf? url).run := by
        refine Asks.attempt (asks_store (hget url (by simpa using hc) hurl)) fun found => ?_
        cases found with
        | none => exact asks_pure _
        | some entry => exact (asks_settled _).attempt fun _ => asks_pure _
      refine hstored.bind fun found => ?_
      cases found with
      | ok found => exact asks_pure _
      | error e => exact (hwrite _ _ _ (by simp [Log.errorField, Log.Entry.reserved])).bind fun _ => asks_pure _

theorem plainIn_forward : Asks (Question.PlainIn g format) (forward r).run := (asks_fetch ⟨trivial, trivial⟩).withError

theorem plainIn_answerUnrouted (lines : Log.Lines) :
    Asks (Question.PlainIn w.cache.generation lines.logger.format) (w.answerUnrouted lines r).run := by
  unfold answerUnrouted
  have hcached : Asks (Question.PlainIn w.cache.generation lines.logger.format) (w.cachedFor lines r) :=
    asks_cachedFor (fun level message _ => lines.plainIn_write level message) fun _ _ _ => Question.plainIn_get _ _
  refine hcached.lift.attempt fun cached => ?_
  refine (lines.plainIn_write _ _ (by simp [Log.Entry.reserved])).lift.attempt fun _ => ?_
  split
  · exact asks_pure _
  · exact plainIn_forward r

/-- What is asked to answer a request. -/
theorem plainIn_answerWithin :
    Asks (Question.PlainIn w.cache.generation w.config.logFormat) (w.answerWithin steps r) := by
  unfold answerWithin
  refine asks_bind_of_runs (Log.Lines.runs_start _ _ _) fun lines hlines => ?_
  rw [← hlines]
  dsimp only
  split
  · exact (lines.plainIn_write _ _ (by simp [Log.Entry.reserved])).bind fun _ =>
      (plainIn_forward r).bind fun _ => asks_pure _
  · split
    · exact (w.plainIn_answerRouted steps r lines).bind fun _ => asks_pure _
    · exact (w.plainIn_answerUnrouted r lines).bind fun _ => asks_pure _

theorem plain_answer : Asks (Question.Plain w.config.logFormat) (w.answer r) :=
  (w.plainIn_answerWithin _ r).mono fun _ => And.left

theorem names_answer : Asks (Question.Names (· = w.cache.generation)) (w.answer r) :=
  (w.plainIn_answerWithin _ r).mono fun _ => And.right

theorem asks_answerWithin : Asks Question.Reads (w.answerWithin steps r) :=
  (w.plainIn_answerWithin steps r).mono fun _ hq => hq.1.reads

theorem asks_answer : Asks Question.Reads (w.answer r) := w.asks_answerWithin _ r

end Worker

/-! ### What becomes of a worker -/

theorem Template.Engine.yields_renderWithin (e : Engine) (steps : Nat) (path : String) (data : Json.Value) :
    Yields (fun p => p.2.cache = e.cache) (e.renderWithin steps path data) := by
  have hcarry (steps : Nat) (e : Engine) (load : Load) : Yields (fun p => p.2.cache = e.cache) (carryOn path steps e load) := by
    induction steps generalizing e load with
    | zero => cases load <;> exact yields_pure rfl
    | succ steps ih =>
      have hgo : Yields (fun p => p.2.cache = e.cache) (e.next load >>= fun next => report next.2.1 >>= fun _ =>
          carryOn path steps { e with library := next.1 } next.2.2) :=
        yields_bind fun next => yields_bind fun _ => ih { e with library := next.1 } next.2.2
      cases load with
      | done outcome => exact yields_pure rfl
      | _ => exact hgo
  unfold renderWithin loadWithin
  refine (hcarry steps e _).bind fun loaded hloaded => ?_
  obtain ⟨x | ⟨⟩, e'⟩ := loaded <;> exact yields_pure hloaded

namespace Worker

/-- The same worker with other templates loaded. -/
def Reloads (w w' : Worker) : Prop := ∃ engine, engine.cache = w.cache ∧ w' = { w with engine }

theorem Reloads.refl (w : Worker) : w.Reloads w := ⟨w.engine, rfl, rfl⟩

variable (w : Worker) (steps : Nat) (r : Http.Request)

theorem yields_pageFor (d : Route.Descriptor) (data : Json.Value) :
    Yields (fun p => w.Reloads p.2) (w.pageFor steps d data) := by
  unfold pageFor
  split
  · exact yields_pure (.refl w)
  · exact (w.engine.yields_renderWithin steps _ data).bind fun page hpage => yields_pure ⟨page.2, hpage, rfl⟩

theorem yields_route : Yields (fun p => w.Reloads p.2) (w.route steps r) := by
  unfold route
  split
  · exact yields_pure (.refl w)
  · next d _ =>
    split
    · exact (w.yields_pageFor steps d _).bind fun _ h => yields_pure h
    · refine yields_bind fun result => ?_
      cases result with
      | error e => exact yields_pure (.refl w)
      | ok data =>
        refine yields_bind fun called => ?_
        dsimp only
        split
        · exact yields_pure (.refl w)
        · exact (w.yields_pageFor steps d data).bind fun _ h => yields_pure h

theorem yields_answer : Yields (fun p => w.Reloads p.2) (w.answer r) := by
  have hrouted (steps : Nat) (lines : Log.Lines) : Yields (fun p => w.Reloads p.2) (w.answerRouted steps lines r) := by
    unfold answerRouted
    exact yields_bind fun _ => (w.yields_route steps r).bind fun _ h => yields_bind fun _ => yields_pure h
  unfold answer answerWithin
  refine yields_bind fun lines => ?_
  dsimp only
  split
  · exact yields_bind fun _ => yields_bind fun _ => yields_pure (.refl w)
  · split
    · exact (hrouted _ lines).bind fun _ h => yields_pure h
    · exact yields_bind fun _ => yields_pure (.refl w)

end Worker
end EdgeWorker
