import EdgeWorker.Proofs.Host.Fetched
import EdgeWorker.Proofs.Http.Header
import EdgeWorker.Proofs.Url.Reread
import EdgeWorker.Rpc.Invocation

/-!
What a call sends, and what its result is taken from.

* `requestOf_eq` — a call is posted to where its address is got from, under two headers of its own;
* `postOf` — the request of a call behind a path, if there is one;
* `run_call` — with an address that can be asked, a call is one question to the network, and the result is the one in the
  answer (`received`, `resultIn`);
* `comesTo_invoke` — the request is all that is fetched.
-/

namespace EdgeWorker

open EdgeWorker.Action EdgeWorker.Host EdgeWorker.Http EdgeWorker.Json

@[simp] theorem toOption_mapError {ε δ α : Type} (f : ε → δ) (result : Except ε α) :
    (result.mapError f).toOption = result.toOption := by
  cases result <;> rfl

namespace Rpc

/-! ### Requests -/

theorem isName_accept : isName "accept".toList = true := by decide +kernel

theorem isFieldByte_json : (Text.bytes "application/json").all isFieldByte = true := by decide +kernel

def jsonType : HeaderValue := ⟨Text.bytes "application/json", isFieldByte_json⟩

def callHeaders : Headers :=
  Headers.insert (Headers.insert Keyed.empty ⟨"accept", isName_accept⟩ jsonType) ⟨"content-type", isName_contentType⟩ jsonType

/-- No header of a call has another value. -/
theorem text?_callHeaders (name : String) :
    callHeaders.text? name = none ∨ callHeaders.text? name = some "application/json" := by
  have hentries : callHeaders.entries =
      [(⟨"accept", isName_accept⟩, jsonType, []), (⟨"content-type", isName_contentType⟩, jsonType, [])] := by decide +kernel
  have hjson : jsonType.text? = some "application/json" := by decide +kernel
  unfold Headers.text?
  cases HeaderName.ofText? name with
  | none => exact .inl rfl
  | some n =>
    rw [Option.bind_some, Headers.first?, Keyed.get?, hentries, List.lookup_cons, List.lookup_cons]
    split
    · exact .inr hjson
    · split
      · exact .inr hjson
      · exact .inl rfl

/-- A request for what is at an address, made a call to this address. -/
def posted (c : Call) (q : Request) : Request := { q with method := .post, headers := callHeaders, body := Text.bytes c.text }

theorem requestOf_eq (url : Url) (c : Call) : requestOf url c = (Fetch.getRequest url).map (posted c) := by
  have hheaders : Fetch.Draft.checkHeaders [("Accept", "application/json"), ("Content-Type", "application/json")] =
      .ok callHeaders := by rfl
  have hnone : Fetch.Draft.checkHeaders [] = .ok Keyed.empty := rfl
  have hdraft : ((Fetch.Draft.start .post url.text).header "Accept" "application/json" |>.json c.text) =
      ⟨.post, url.text, [("Accept", "application/json"), ("Content-Type", "application/json")], Text.bytes c.text⟩ := by
    rfl
  unfold requestOf Fetch.getRequest
  rw [hdraft]
  unfold Fetch.Draft.request
  dsimp only [Fetch.Draft.start]
  cases Url.ofText url.text with
  | error e => rfl
  | ok v =>
    dsimp only
    cases Target.ofText v.text with
    | error e => rfl
    | ok target =>
      dsimp only
      rw [hheaders, hnone]
      rfl

theorem body_posted (c : Call) (q : Request) : (posted c q).body = Text.bytes c.text := by
  rw [posted]

theorem target_posted (c : Call) (q : Request) : (posted c q).target = q.target := by
  rw [posted]

/-- Calls are posted. -/
theorem method_requestOf {url : Url} {c : Call} {request : Request} (h : requestOf url c = .ok request) :
    request.method = .post := by
  rw [requestOf_eq] at h
  cases hq : Fetch.getRequest url with
  | error e => rw [hq] at h; cases h
  | ok q => rw [hq] at h; cases h; rfl

/-- The request that calls a method behind a path below a scope. -/
def postOf (s : Scope) (path method : String) (params : Value) : Option Request :=
  (s.resolve path).toOption.bind fun url => (Fetch.getRequest url).toOption.map (posted (.of method params))

/-- A call asks for the answers to its requests, and for log records. -/
theorem asks_invoke {P : Question → Prop} (hsent : ∀ url c request, requestOf url c = .ok request → P (.fetch request))
    (hlog : ∀ record, record.target = Log.rpcTarget → P (.log record)) (s : Scope) (path method : String) (params : Value) :
    Asks P (invoke s path method params).run := by
  unfold invoke
  refine (asks_settled _).attempt fun url => ?_
  have hcall : Asks P (call url (.of method params)).run := by
    unfold call
    cases hrequest : requestOf url (.of method params) with
    | error x => exact asks_pure _
    | ok request => exact (asks_fetch (hsent _ _ _ hrequest)).withError.attempt fun _ => asks_settled _
  refine hcall.lift.attempt fun result => ?_
  cases result with
  | ok value => exact asks_settled _
  | error e => exact (asks_log (hlog _ rfl)).lift.attempt fun _ => asks_settled _

/-! ### Results -/

/-- What the caller makes of an answer. -/
def received (url : Url) (c : Call) (answer : Except Fetch.Error Response) : Except Error Value :=
  (answer.mapError (.transport url.text)).bind (resultOf url c)

theorem received_ok (url : Url) (c : Call) (response : Response) : received url c (.ok response) = resultOf url c response := by
  rw [received]
  rfl

/-- The result in an answer to a call: that of a success whose body is a reply without a failure. -/
def resultIn (response : Response) : Option Value :=
  if response.isSuccess then (Reply.reader.ofBytes? response.body).bind fun reply => reply.outcome.toOption else none

theorem toOption_resultOf (url : Url) (c : Call) (response : Response) :
    (resultOf url c response).toOption = resultIn response := by
  unfold resultOf resultIn Response.orStatus
  split
  · dsimp only [Except.mapError, Bind.bind, Except.bind]
    cases Reply.reader.ofBytes? response.body with
    | none => rfl
    | some reply => exact toOption_mapError _ _
  · rfl

/-- The result of the only call that was made. -/
def resultAmong : Fetches → Option Value
  | [(_, .ok response)] => resultIn response
  | _ => none

variable {s : Scope} {path method : String} {params : Value} {fs : Fetches} {result : Except Error Value} {url : Url} {c : Call}

theorem toOption_received (url : Url) (c : Call) (request : Request) (answer : Except Fetch.Error Response) :
    (received url c answer).toOption = resultAmong [(request, answer)] := by
  cases answer with
  | error e => rfl
  | ok response => rw [received_ok, toOption_resultOf, resultAmong]

theorem run_call_of_error {e : Fetch.Error} (hq : Fetch.getRequest url = .error e) :
    (call url c).run = .done (.error (.transport url.text e)) := by
  unfold call
  rw [requestOf_eq, hq]
  rfl

theorem run_call {q : Request} (hq : Fetch.getRequest url = .ok q) :
    (call url c).run = .ask (.fetch (posted c q)) fun answer => .done (received url c answer) := by
  have hrequest : (requestOf url c).mapError (Error.transport url.text) = .ok (posted c q) := by
    rw [requestOf_eq, hq]
    rfl
  unfold call received
  rw [hrequest, settled_bind]
  generalize posted c q = request
  generalize resultOf url c = result
  generalize Error.transport url.text = transport
  refine congrArg (Action.ask (Question.fetch request)) (funext fun answer => ?_)
  cases answer <;> rfl

theorem comesTo_call (h : ComesTo (call url c).run fs result) :
    fs.map Prod.fst = ((Fetch.getRequest url).toOption.map (posted c)).toList ∧ result.toOption = resultAmong fs := by
  cases hq : Fetch.getRequest url with
  | error e =>
    rw [run_call_of_error hq] at h
    obtain ⟨rfl, rfl⟩ := comesTo_pure.1 h
    exact ⟨rfl, rfl⟩
  | ok q =>
    rw [run_call hq] at h
    obtain ⟨answer, more, rfl, hend⟩ := comesTo_fetched.1 h
    obtain ⟨rfl, rfl⟩ := comesTo_pure.1 hend
    exact ⟨rfl, toOption_received url c (posted c q) answer⟩

/-- A call sends its request and nothing else, and ends in the result in the answer. -/
theorem comesTo_invoke (h : ComesTo (invoke s path method params).run fs result) :
    fs.map Prod.fst = (postOf s path method params).toList ∧ result.toOption = resultAmong fs := by
  unfold invoke at h
  unfold postOf
  rcases h.of_mapError_bind with ⟨url, hurl, h⟩ | ⟨e, hurl, rfl, rfl⟩
  · have hresolve : (s.resolve path).toOption = some url := by
      rw [hurl]
      rfl
    rw [hresolve, Option.bind_some]
    obtain ⟨fs₁, fs₂, outcome, rfl, hcall, hend⟩ :=
      (comesTo_lift_bind (m := (call url (.of method params)).run)).1 h
    -- the failure of a call is reported, which fetches nothing
    have hlast : fs₂ = [] ∧ result = outcome := by
      cases outcome with
      | ok v => exact comesTo_settled.1 hend
      | error e =>
        obtain ⟨_, hsettled⟩ := hend.of_lift_bind (asks_log trivial)
        exact comesTo_settled.1 hsettled
    obtain ⟨rfl, rfl⟩ := hlast
    rw [List.append_nil]
    exact comesTo_call hcall
  · rw [hurl]
    exact ⟨rfl, rfl⟩

end Rpc
end EdgeWorker
