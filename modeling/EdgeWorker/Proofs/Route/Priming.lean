import EdgeWorker.Proofs.Cache.Install
import EdgeWorker.Proofs.Route.Load
import EdgeWorker.Proofs.Url.Reread
import EdgeWorker.Proofs.Weaving

/-!
Priming a generation with templates, over a network that answers by address alone. The templates may take turns in any way.

* `Found` — the answer of the network to a path, and its key; there is one for each key (`Found.unique`);
* `Primed` — every template that was found is stored, and nothing else was changed;
* `Left` — what is left to do for one template; `Left.step` for its own steps, `Left.mono` for those of the others;
* `ensures_primes` — however the templates take turns, the generation is primed in the end.
-/

namespace EdgeWorker.Cache

open EdgeWorker.Action EdgeWorker.Host EdgeWorker.Route Generations

variable {c : Current} {network : String → Except Fetch.Error Http.Response} {paths : List String} {path key : String}
  {response response' : Http.Response} {gs gs' : Generations}

/-! ### Answers -/

namespace Current

/-- The network answers for a path with success, and the answer is kept under this key. -/
def Found (c : Current) (network : String → Except Fetch.Error Http.Response) (path key : String)
    (response : Http.Response) : Prop :=
  c.keyOf? path = some key ∧
    ∃ request, c.requestOf? path = some request ∧ network request.target.text = .ok response ∧ response.isSuccess

/-- Paths with one key have one answer. -/
theorem Found.unique (hs : c.scope.Based) {path' : String} (h : c.Found network path key response)
    (h' : c.Found network path' key response') : response = response' := by
  obtain ⟨hkey, request, hrequest, hanswer, -⟩ := h
  obtain ⟨hkey', request', hrequest', hanswer', -⟩ := h'
  obtain ⟨url, hurl, rfl⟩ := keyOf?_eq_some.1 hkey
  obtain ⟨url', hurl', hsame⟩ := keyOf?_eq_some.1 hkey'
  obtain ⟨v, hv, hr⟩ := requestOf?_eq_some.1 hrequest
  obtain ⟨v', hv', hr'⟩ := requestOf?_eq_some.1 hrequest'
  cases hurl.symm.trans hv
  cases hurl'.symm.trans hv'
  obtain rfl := hs.getRequest_eq hurl hurl' hsame.symm hr hr'
  exact Except.ok.inj (hanswer.symm.trans hanswer')

/-- In the generation there is an answer for one of the paths under a key. -/
def Stored (c : Current) (network : String → Except Fetch.Error Http.Response) (paths : List String) (gs : Generations)
    (key : String) : Prop :=
  ∃ path ∈ paths, ∃ response now, c.Found network path key response ∧
    gs.entryAt? c.generation key = some (Entry.ofResponse response now)

/-- Of all entries only those of paths that were found may have changed. -/
def Reached (c : Current) (network : String → Except Fetch.Error Http.Response) (paths : List String)
    (gs gs' : Generations) : Prop :=
  ∀ g key, gs'.entryAt? g key = gs.entryAt? g key ∨ g = c.generation ∧ c.Stored network paths gs' key

/-- Every path that was found has its answer stored, and all other entries are what they were. -/
structure Primed (c : Current) (network : String → Except Fetch.Error Http.Response) (paths : List String)
    (gs gs' : Generations) : Prop where
  stored : ∀ path ∈ paths, ∀ key response, c.Found network path key response →
    ∃ entry, gs'.entryAt? c.generation key = some entry ∧ entry.Keeps response
  kept : ∀ g key, g ≠ c.generation ∨ (∀ path ∈ paths, ∀ response, ¬ c.Found network path key response) →
    gs'.entryAt? g key = gs.entryAt? g key

theorem primed_of_reached (hs : c.scope.Based) (h : c.Reached network paths gs gs')
    (hstored : ∀ path ∈ paths, ∀ key response, c.Found network path key response → c.Stored network paths gs' key) :
    c.Primed network paths gs gs' where
  stored path hpath key response hfound := by
    obtain ⟨path', -, response', now, hfound', hentry⟩ := hstored path hpath key response hfound
    obtain rfl := hfound.unique hs hfound'
    exact ⟨_, hentry, Entry.keeps_ofResponse response now⟩
  kept g key hother := by
    refine (h g key).resolve_right ?_
    rintro ⟨rfl, path, hpath, response, -, hfound, -⟩
    exact hother.elim (fun hne => hne rfl) fun hnone => hnone path hpath response hfound

/-! ### Storing one answer -/

theorem entryAt?_put (gs : Generations) (g key key' : String) (e : Entry) :
    (gs.putAll g [(key, e)]).entryAt? g key' = if key' = key then some e else gs.entryAt? g key' := by
  have hone : (Keyed.ofList [(key, e)]).get? key' = if key' = key then some e else none := by
    split
    · next h => subst h; exact Keyed.get?_put_self _ _ _
    · next h => rw [Keyed.get?_ofList_eq_none (by simpa using h)]
  rw [entryAt?_putAll_self, hone]
  split <;> rfl

/-- What was stored stays stored when another answer is. -/
theorem Stored.put {key' : String} {now : Timestamp} (h : c.Stored network paths gs key') (hpath : path ∈ paths)
    (hfound : c.Found network path key response) :
    c.Stored network paths (gs.putAll c.generation [(key, Entry.ofResponse response now)]) key' := by
  by_cases hkey : key' = key
  · subst hkey
    exact ⟨path, hpath, response, now, hfound, by rw [entryAt?_put, if_pos rfl]⟩
  · obtain ⟨path', hpath', response', now', hfound', hentry⟩ := h
    exact ⟨path', hpath', response', now', hfound', by rw [entryAt?_put, if_neg hkey, hentry]⟩

theorem stored_put {now : Timestamp} (hpath : path ∈ paths) (hfound : c.Found network path key response) :
    c.Stored network paths (gs.putAll c.generation [(key, Entry.ofResponse response now)]) key :=
  ⟨path, hpath, response, now, hfound, by rw [entryAt?_put, if_pos rfl]⟩

theorem Reached.put {now : Timestamp} (h : c.Reached network paths gs gs') (hpath : path ∈ paths)
    (hfound : c.Found network path key response) :
    c.Reached network paths gs (gs'.putAll c.generation [(key, Entry.ofResponse response now)]) := by
  intro g key'
  by_cases hg : g = c.generation
  · subst hg
    by_cases hkey : key' = key
    · subst hkey
      exact .inr ⟨rfl, stored_put hpath hfound⟩
    · rw [entryAt?_put, if_neg hkey]
      exact (h _ key').imp_right (And.imp_right fun hstored => hstored.put hpath hfound)
  · rw [entryAt?_putAll_of_ne hg]
    exact (h g key').imp_right fun hself => absurd hself.1 hg

/-! ### Templates that take turns -/

variable {admits : Http.Request → Except Fetch.Error Http.Response → Prop} {s s' : Generations × Fetches} {m : Job Unit}

/-- A resource is fetched first, and with a success it is dated. -/
theorem fetchEntry_of_some {request : Http.Request} (h : c.requestOf? path = some request) :
    ∃ key next, c.keyOf? path = some key ∧ (c.fetchEntry path).run = .ask (.fetch request) next ∧
      (∀ a, (∀ response, a = .ok response → ¬ response.isSuccess) → ∃ e, next a = .done (.error e)) ∧
      ∀ response, response.isSuccess →
        next (.ok response) = .ask .now fun now => .done (.ok (key, Entry.ofResponse response now)) := by
  obtain ⟨url, -, hkey, hfetch⟩ := exists_fetchEntry_eq h
  rw [hfetch]
  -- what becomes of a response, with its test still to be decided
  let checked (response : Http.Response) : Attempt Error (String × Entry) := do
    if !response.isSuccess then throw (.status url.text response.status)
    return (cacheKey url, Entry.ofResponse response (← now))
  have hchecked (response : Http.Response) : (checked response).run = if !response.isSuccess
      then .done (.error (.status url.text response.status))
      else .ask .now fun now => .done (.ok (cacheKey url, Entry.ofResponse response now)) := by
    unfold checked
    dsimp only
    split <;> rfl
  refine ⟨cacheKey url, fun
    | .ok response => (checked response).run
    | .error e => .done (.error (.fetch url.text e)), hkey, ?_, fun a ha => ?_, fun response hsuccess => ?_⟩
  · refine congrArg (Action.ask _) (funext fun a => ?_)
    cases a <;> rfl
  · cases a with
    | error e => exact ⟨_, rfl⟩
    | ok response => exact ⟨_, (hchecked response).trans (if_pos (by simpa using ha response rfl))⟩
  · exact (hchecked response).trans (if_neg (by simpa using hsuccess))

theorem primeOne_of_none (h : c.requestOf? path = none) : ∃ record, primeOne c path = .ask (.log record) .done := by
  obtain ⟨e, he⟩ := exists_fetchEntry_error h
  have hadd : (c.add path).run = pure (.error e) := by
    show (c.fetchEntry path).run.bind _ = _
    rw [he]
    rfl
  unfold primeOne
  rw [hadd]
  exact ⟨_, rfl⟩

/-- With a success a template is put under its key, and without one there is a report. -/
theorem primeOne_of_some {request : Http.Request} (h : c.requestOf? path = some request) :
    ∃ key next, c.keyOf? path = some key ∧ primeOne c path = .ask (.fetch request) next ∧
      (∀ a, (∀ response, a = .ok response → ¬ response.isSuccess) → ∃ record, next a = .ask (.log record) .done) ∧
      ∀ response, response.isSuccess → ∃ put, next (.ok response) = .ask .now put ∧ ∀ now, ∃ last,
        put now = .ask (.store (.put c.generation key (Entry.ofResponse response now))) last ∧ last (.ok ()) = .done () := by
  obtain ⟨key, next, hkey, hfetch, hfailed, hsuccess⟩ := fetchEntry_of_some h
  -- what follows a fetch: the put of what was fetched, and a report of what failed
  let follow (fetched : Except Error (String × Entry)) : Job Unit :=
    (ExceptT.bindCont (fun x => store (.put c.generation x.1 x.2)) fetched).bind fun
      | .ok () => .done ()
      | .error e => log ⟨.warn, Log.routerTarget, "failed to prime template",
          [("template", .string path), Log.errorField e.message]⟩
  have hprime : primeOne c path = (c.fetchEntry path).run.bind follow := Action.bind_assoc _ _ _
  rw [hprime, hfetch]
  refine ⟨key, _, hkey, rfl, fun a ha => ?_, fun response hr => ?_⟩
  · obtain ⟨e, he⟩ := hfailed a ha
    rw [he]
    exact ⟨_, rfl⟩
  · rw [hsuccess response hr]
    exact ⟨_, rfl, fun now => ⟨_, rfl, rfl⟩⟩

theorem primeOne_ne_done (c : Current) (path : String) : primeOne c path ≠ .done () := by
  cases hrequest : c.requestOf? path with
  | none =>
    obtain ⟨record, h⟩ := primeOne_of_none hrequest
    rw [h]
    nofun
  | some request =>
    obtain ⟨key, next, -, h, -⟩ := primeOne_of_some hrequest
    rw [h]
    nofun

/-- What is left to do for a template, and what is stored when nothing is. -/
inductive Left (c : Current) (network : String → Except Fetch.Error Http.Response) (paths : List String) (path : String) :
    Job Unit → Generations → Prop
  | start {m : Job Unit} {gs : Generations} : m = primeOne c path → Left c network paths path m gs
  | dating {key : String} {response : Http.Response} {put : Timestamp → Job Unit} {gs : Generations} :
      c.Found network path key response → (∀ now, ∃ last,
        put now = .ask (.store (.put c.generation key (Entry.ofResponse response now))) last ∧ last (.ok ()) = .done ()) →
      Left c network paths path (.ask .now put) gs
  | putting {key : String} {response : Http.Response} {now : Timestamp} {last : Except Error Unit → Job Unit}
      {gs : Generations} : c.Found network path key response → last (.ok ()) = .done () →
      Left c network paths path (.ask (.store (.put c.generation key (Entry.ofResponse response now))) last) gs
  | reporting {record : Log.Record} {gs : Generations} : (∀ key response, ¬ c.Found network path key response) →
      Left c network paths path (.ask (.log record) .done) gs
  | done {gs : Generations} : (∀ key response, c.Found network path key response → c.Stored network paths gs key) →
      Left c network paths path (.done ()) gs

/-- A step towards a template keeps to what is left, and changes the storage by nothing but an answer that was found. -/
theorem Left.step (hadmits : ∀ r a, admits r a → a = network r.target.text) {q : Question} {next : Answer q → Job Unit}
    {a : Answer q} (hpath : path ∈ paths) (h : Left c network paths path (.ask q next) s.1) (ha : reliable admits s q a s') :
    (s'.1 = s.1 ∨ ∃ path ∈ paths, ∃ key response now, c.Found network path key response ∧
      s'.1 = s.1.putAll c.generation [(key, Entry.ofResponse response now)]) ∧ Left c network paths path (next a) s'.1 := by
  cases h with
  | start hm =>
    cases hrequest : c.requestOf? path with
    | none =>
      obtain ⟨record, hrecord⟩ := primeOne_of_none hrequest
      rw [hrecord] at hm
      cases hm
      obtain rfl : s' = s := ha
      refine ⟨.inl rfl, .done fun key response hfound => ?_⟩
      obtain ⟨-, request, hrequest', -⟩ := hfound
      cases hrequest.symm.trans hrequest'
    | some request =>
      obtain ⟨key, next, hkey, hprime, hfailed, hsuccess⟩ := primeOne_of_some hrequest
      rw [hprime] at hm
      cases hm
      obtain ⟨hanswer, rfl⟩ := ha
      have hnetwork := hadmits request a hanswer
      refine ⟨.inl rfl, ?_⟩
      by_cases hfound : ∃ response, a = .ok response ∧ response.isSuccess
      · obtain ⟨response, rfl, hr⟩ := hfound
        obtain ⟨put, hput, hlast⟩ := hsuccess response hr
        rw [hput]
        exact .dating ⟨hkey, request, hrequest, hnetwork.symm, hr⟩ hlast
      · obtain ⟨record, hrecord⟩ := hfailed a fun response hresponse hr => hfound ⟨response, hresponse, hr⟩
        rw [hrecord]
        refine .reporting fun key response hother => hfound ?_
        obtain ⟨-, request', hrequest', hresponse, hr⟩ := hother
        cases hrequest.symm.trans hrequest'
        exact ⟨response, hnetwork.trans hresponse, hr⟩
  | dating hfound hput =>
    obtain rfl : s' = s := ha
    obtain ⟨last, hput, hlast⟩ := hput a
    rw [hput]
    exact ⟨.inl rfl, .putting hfound hlast⟩
  | @putting key response now last _ hfound hlast =>
    obtain ⟨rfl, rfl⟩ := ha
    have hdone : last (s.1.perform (.put c.generation key (Entry.ofResponse response now))).1 = .done () := hlast
    refine ⟨.inr ⟨path, hpath, key, response, now, hfound, rfl⟩, ?_⟩
    rw [hdone]
    refine .done fun key' response' hfound' => ?_
    obtain rfl : key' = key := Option.some.inj (hfound'.1.symm.trans hfound.1)
    exact stored_put hpath hfound
  | reporting hnone =>
    obtain rfl : s' = s := ha
    exact ⟨.inl rfl, .done fun key response hfound => absurd hfound (hnone key response)⟩

/-- What is left does not depend on the storage, and what is stored stays stored. -/
theorem Left.mono (h : Left c network paths path m gs)
    (hstored : ∀ key, c.Stored network paths gs key → c.Stored network paths gs' key) : Left c network paths path m gs' := by
  cases h with
  | start hm => exact .start hm
  | dating hfound hput => exact .dating hfound hput
  | putting hfound hlast => exact .putting hfound hlast
  | reporting hnone => exact .reporting hnone
  | done hdone => exact .done fun key response hfound => hstored key (hdone key response hfound)

/-- However templates take turns, the generation is primed with them in the end. -/
theorem ensures_primes (hs : c.scope.Based) (hadmits : ∀ r a, admits r a → a = network r.target.text)
    (h : Weaves (paths.map (primeOne c)) m) (s : Generations × Fetches) :
    m.Ensures (reliable admits) s fun _ s' => c.Primed network paths s.1 s'.1 := by
  -- what is left of a template is known whatever the others have stored
  let Stage (path : String) (m : Job Unit) (s' : Generations × Fetches) : Prop :=
    path ∈ paths ∧ Left c network paths path m s'.1
  have hstart : List.Forall₂ (fun path m => Stage path m s) paths (paths.map (primeOne c)) :=
    List.forall₂_map_right_iff.2 (List.forall₂_same.2 fun path hpath => ⟨hpath, .start rfl⟩)
  refine (h.ensures (fun s' => c.Reached network paths s.1 s'.1) Stage ?_ ?_ (fun _ _ => .inl rfl) hstart).mono ?_
  · rintro path q next s' hreached ⟨hpath, hleft⟩ a s'' ha
    obtain ⟨hchange, hleft'⟩ := hleft.step hadmits hpath ha
    refine ⟨?_, hpath, hleft'⟩
    rcases hchange with heq | ⟨path', hpath', key, response, now, hfound, heq⟩
    · rwa [heq]
    · rw [heq]
      exact hreached.put hpath' hfound
  · rintro path path' q next m' s' ⟨hpath, hleft⟩ ⟨hpath', hleft'⟩ a s'' ha
    refine ⟨hpath', hleft'.mono fun key hstored => ?_⟩
    rcases (hleft.step hadmits hpath ha).1 with heq | ⟨path'', hpath'', key', response, now, hfound, heq⟩
    · rwa [heq]
    · rw [heq]
      exact hstored.put hpath'' hfound
  · rintro ⟨⟩ s' ⟨hreached, hdone⟩
    refine primed_of_reached hs hreached fun path hpath key response hfound => ?_
    cases (hdone path hpath).2 with
    | start hm => exact absurd hm.symm (primeOne_ne_done c path)
    | done hdone => exact hdone key response hfound

end Current
end EdgeWorker.Cache
