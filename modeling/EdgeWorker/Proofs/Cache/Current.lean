import EdgeWorker.Proofs.Cache.Growth
import EdgeWorker.Proofs.Host.Serving

/-!
What the current generation makes of a storage in memory, whatever the network answers and whatever the storage
refuses. One lemma for each of its functions.

* `Scope.LeadsTo s path key` — the answer for a path is kept under this key;
* `Current.requestOf?`, `Current.keyOf?` — what is fetched for a path, and where its answer is kept;
* `Current.Records`, `Current.Obtains` — what is stored for a path keeps an answer of the network to its request;
* `ensures_fetchEntry`, `ensures_add` — one resource;
* `ensures_install` — all resources of a list, or nothing but an open generation;
* `ensures_activate` — all other generations are dropped, or some of them.
-/

namespace EdgeWorker

/-- A path leads to an address that can be asked for, and the answer is kept under this key. -/
def Scope.LeadsTo (s : Scope) (path key : String) : Prop :=
  ∃ url request, s.resolve path = .ok url ∧ Fetch.getRequest url = .ok request ∧ cacheKey url = key

namespace Cache

open EdgeWorker.Action EdgeWorker.Host Generations

variable {admits : Http.Request → Except Fetch.Error Http.Response → Prop} {gs gs' : Generations} {c : Current}
  {path key g : String} {stored : String × Entry}

/-- The current generation has an entry for a path. -/
def Current.Has (c : Current) (gs : Generations) (path : String) : Prop :=
  ∃ url, c.scope.resolve path = .ok url ∧ (gs.entryAt? c.generation (cacheKey url)).isSome

instance (c : Current) (gs : Generations) (path : String) : Decidable (c.Has gs path) :=
  match h : c.scope.resolve path with
  | .ok url => decidable_of_iff (gs.entryAt? c.generation (cacheKey url)).isSome
      ⟨fun hu => ⟨url, h, hu⟩, fun ⟨_, hurl, hu⟩ => by cases h.symm.trans hurl; exact hu⟩
  | .error _ => isFalse fun ⟨_, hurl, _⟩ => by cases h.symm.trans hurl

theorem Current.Has.mono (h : c.Has gs path) (hr : Retains c.generation gs gs') : c.Has gs' path := by
  obtain ⟨url, hurl, hu⟩ := h
  exact ⟨url, hurl, hr _ hu⟩

namespace Current

theorem resolve_eq_ok {url : Url} : c.resolve path = .ok url ↔ c.scope.resolve path = .ok url := by
  unfold resolve
  cases c.scope.resolve path <;> simp

theorem mapError_eq_ok {ε δ α : Type} {f : ε → δ} {r : Except ε α} {a : α} : r.mapError f = .ok a ↔ r = .ok a := by
  cases r <;> simp [Except.mapError]

theorem mapError_eq_error {ε δ α : Type} {f : ε → δ} {r : Except ε α} {d : δ} :
    r.mapError f = .error d ↔ ∃ e, r = .error e ∧ f e = d := by
  cases r <;> simp [Except.mapError]

/-- The request for a path, if one can be built. -/
def requestOf? (c : Current) (path : String) : Option Http.Request :=
  match c.scope.resolve path with
  | .ok url => (Fetch.getRequest url).toOption
  | .error _ => none

/-- The key under which the answer for a path is kept. -/
def keyOf? (c : Current) (path : String) : Option String := (c.scope.resolve path).toOption.map cacheKey

/-- What is stored for a path with the answer to its request: a key, and an entry that keeps the answer. -/
def Records (c : Current) (path : String) (fetched : Http.Request × Except Fetch.Error Http.Response)
    (stored : String × Entry) : Prop :=
  c.requestOf? path = some fetched.1 ∧ c.keyOf? path = some stored.1 ∧
    ∃ response now, fetched.2 = .ok response ∧ response.isSuccess ∧ stored.2 = Entry.ofResponse response now

/-- What is stored for a path keeps what the network may answer. -/
def Obtains (c : Current) (admits : Http.Request → Except Fetch.Error Http.Response → Prop) (path : String)
    (stored : String × Entry) : Prop :=
  ∃ fetched, admits fetched.1 fetched.2 ∧ c.Records path fetched stored

theorem requestOf?_eq_some {request : Http.Request} :
    c.requestOf? path = some request ↔ ∃ url, c.scope.resolve path = .ok url ∧ Fetch.getRequest url = .ok request := by
  unfold requestOf?
  cases c.scope.resolve path with
  | error e => simp
  | ok url =>
    simp only [Except.ok.injEq, exists_eq_left']
    cases Fetch.getRequest url <;> simp [Except.toOption]

theorem keyOf?_eq_some : c.keyOf? path = some key ↔ ∃ url, c.scope.resolve path = .ok url ∧ cacheKey url = key := by
  unfold keyOf?
  cases c.scope.resolve path <;> simp [Except.toOption]

/-- A path that something is stored for leads to its key. -/
theorem Obtains.leadsTo (h : c.Obtains admits path stored) : c.scope.LeadsTo path stored.1 := by
  obtain ⟨fetched, -, hrequest, hkey, -⟩ := h
  obtain ⟨url, hurl, hrequest⟩ := requestOf?_eq_some.1 hrequest
  obtain ⟨url', hurl', hkey⟩ := keyOf?_eq_some.1 hkey
  cases hurl.symm.trans hurl'
  exact ⟨url, _, hurl, hrequest, hkey⟩

/-! ### What a generation holds -/

/-- Every entry of the generation but the mark keeps what the network may answer for a path with its key. -/
def Sound (c : Current) (admits : Http.Request → Except Fetch.Error Http.Response → Prop) (gs : Generations) : Prop :=
  ∀ url e, gs.entryAt? c.generation url = some e → url = readyMarker ∨ ∃ path, c.Obtains admits path (url, e)

theorem Sound.putAll {entries : List (String × Entry)} (h : c.Sound admits gs)
    (hentries : ∀ stored ∈ entries, stored.1 = readyMarker ∨ ∃ path, c.Obtains admits path stored) :
    c.Sound admits (gs.putAll c.generation entries) := by
  intro url e he
  rw [entryAt?_putAll_self] at he
  cases hnew : (Keyed.ofList entries).get? url with
  | none =>
    rw [hnew] at he
    exact h url e he
  | some e' =>
    rw [hnew] at he
    cases he
    exact hentries (url, e) (Keyed.mem_of_get?_ofList hnew)

theorem Sound.of_get?_eq (h : c.Sound admits gs) (hg : gs'.get? c.generation = gs.get? c.generation) : c.Sound admits gs' := by
  unfold Sound entryAt? at h ⊢
  rwa [hg]

theorem Sound.openGeneration (h : c.Sound admits gs) : c.Sound admits (gs.openGeneration c.generation) := by
  intro url e he
  rw [entryAt?_openGeneration] at he
  exact h url e he

/-- Resources were put into the generation. -/
structure Gathers (c : Current) (admits : Http.Request → Except Fetch.Error Http.Response → Prop) (gs gs' : Generations) :
    Prop extends Fills c.generation gs gs' where
  sound : c.Sound admits gs → c.Sound admits gs'

theorem Gathers.refl (c : Current) (gs : Generations) : c.Gathers admits gs gs := ⟨.refl _ gs, id⟩

theorem Gathers.trans {gs'' : Generations} (h : c.Gathers admits gs gs') (h' : c.Gathers admits gs' gs'') :
    c.Gathers admits gs gs'' := ⟨h.toFills.trans h'.toFills, h'.sound ∘ h.sound⟩

/-! ### Resources -/

/-- A resource is fetched without a question to the storage. -/
theorem ensures_fetchEntry (c : Current) (path : String) (gs : Generations) :
    (c.fetchEntry path).run.Ensures (inMemory admits) gs fun r gs' =>
      gs' = gs ∧ ∀ stored, r = .ok stored → c.Obtains admits path stored := by
  have hfailed {e : Error} : gs = gs ∧ ∀ stored : String × Entry, Except.error e = .ok stored → c.Obtains admits path stored :=
    ⟨rfl, nofun⟩
  unfold fetchEntry
  refine Host.Ensures.settle (fun url hurl => ?_) fun e _ => hfailed
  refine Host.Ensures.settle (fun request hrequest => ?_) fun e _ => hfailed
  refine Host.Ensures.attempt (R := fun r gs' => gs' = gs ∧ ∀ response, r = .ok response → admits request (.ok response))
    ?_ ?_ fun e gs' h => ?_
  · exact ensures_withError.2 (ensures_fetch.2 fun a ha => ⟨rfl, fun response hr => mapError_eq_ok.1 hr ▸ ha⟩)
  · rintro response _ ⟨rfl, hadmits⟩
    dsimp only
    split
    · exact ensures_pure.2 hfailed
    · next hsuccess =>
      refine ensures_lift.2 (ensures_now.2 fun time => ensures_pure.2 ⟨rfl, fun stored hstored => ?_⟩)
      cases hstored
      refine ⟨(request, .ok response), hadmits response rfl, ?_, ?_, response, time, rfl, by simpa using hsuccess, rfl⟩
      · exact requestOf?_eq_some.2 ⟨url, resolve_eq_ok.1 hurl, mapError_eq_ok.1 hrequest⟩
      · exact keyOf?_eq_some.2 ⟨url, resolve_eq_ok.1 hurl, rfl⟩
  · exact h.1 ▸ hfailed

/-- A resource that is added is put under its key, or nothing is. -/
theorem ensures_add (c : Current) (path : String) (gs : Generations) :
    (c.add path).run.Ensures (inMemory admits) gs fun r gs' => ((∃ e, r = .error e) ∧ gs' = gs) ∨
      r = .ok () ∧ ∃ stored, c.Obtains admits path stored ∧ gs' = gs.putAll c.generation [stored] := by
  unfold add
  refine Host.Ensures.attempt (c.ensures_fetchEntry path gs) ?_ fun e gs' h => .inl ⟨⟨e, rfl⟩, h.1⟩
  rintro stored _ ⟨rfl, hstored⟩
  exact ensures_store.2 ⟨.inr ⟨rfl, stored, hstored stored rfl, rfl⟩, fun e => .inl ⟨⟨e, rfl⟩, rfl⟩⟩

/-- All resources of a list are fetched without a question to the storage. -/
theorem ensures_fetchEntries (c : Current) (paths : List String) (gs : Generations) :
    (all (paths.map c.fetchEntry)).run.Ensures (inMemory admits) gs fun r gs' =>
      gs' = gs ∧ ∀ entries, r = .ok entries → List.Forall₂ (c.Obtains admits) paths entries := by
  -- of what was fetched so far, every entry is one of its path, and nothing was stored yet
  let I (done : List (String × Except Error (String × Entry))) (gs' : Generations) : Prop :=
    gs' = gs ∧ ∀ x ∈ done, ∀ stored, x.2 = .ok stored → c.Obtains admits x.1 stored
  have hstep : ∀ path done gs', I done gs' → (c.fetchEntry path).run.Ensures (inMemory admits) gs' fun r gs'' =>
      I (done ++ [(path, r)]) gs'' := by
    rintro path done _ ⟨rfl, hdone⟩
    refine (c.ensures_fetchEntry path _).mono ?_
    rintro r _ ⟨rfl, hr⟩
    refine ⟨rfl, fun x hx => ?_⟩
    rcases List.mem_append.1 hx with hx | hx
    · exact hdone x hx
    · cases List.mem_singleton.1 hx
      exact hr
  refine (ensures_all hstep paths ⟨rfl, List.forall_mem_nil _⟩).mono ?_
  rintro r gs' ⟨rs, hlength, ⟨hgs, hrs⟩, rfl⟩
  refine ⟨hgs, fun entries hentries => ?_⟩
  obtain rfl := mapM_id_eq_ok.1 hentries
  rw [List.length_map] at hlength
  rw [List.forall₂_iff_zip]
  refine ⟨hlength.symm, fun {path stored} hmem => hrs (path, .ok stored) ?_ stored rfl⟩
  rw [List.zip_map_right]
  exact List.mem_map.2 ⟨(path, stored), hmem, rfl⟩

/-! ### The life of a generation -/

/-- A generation is filled with all resources of a list, or nothing is put into it. -/
theorem ensures_install (c : Current) (m : Manifest) (gs : Generations) :
    (c.install m).run.Ensures (inMemory admits) gs fun r gs' =>
      ((∃ e, r = .error e) ∧ (gs' = gs ∨ gs' = gs.openGeneration c.generation)) ∨
      ∃ entries, r = .ok entries.length ∧ List.Forall₂ (c.Obtains admits) m.paths entries ∧
        gs' = (gs.openGeneration c.generation).putAll c.generation entries := by
  unfold install
  refine Host.Ensures.stored (fun _ _ => ?_) fun e => .inl ⟨⟨e, rfl⟩, .inl rfl⟩
  refine Host.Ensures.attempt (c.ensures_fetchEntries m.paths _) ?_ fun e gs' h => .inl ⟨⟨e, rfl⟩, .inr h.1⟩
  rintro entries _ ⟨rfl, hentries⟩
  refine Host.Ensures.stored (fun _ _ => ?_) fun e => .inl ⟨⟨e, rfl⟩, .inr rfl⟩
  exact ensures_lift.2 (ensures_log.2 (ensures_pure.2 (.inr ⟨entries, rfl, hentries entries rfl, rfl⟩)))

/-- Whether a generation is marked. -/
theorem ensures_isReady (c : Current) (gs : Generations) :
    c.isReady.run.Ensures (inMemory admits) gs fun r gs' =>
      gs' = gs ∧ ∀ b, r = .ok b → (b = true ↔ gs.IsMarked c.generation) := by
  unfold isReady
  refine Host.Ensures.stored (fun found hfound => ensures_pure.2 ⟨rfl, fun b hb => ?_⟩) fun e => ⟨rfl, nofun⟩
  cases hfound
  cases hb
  exact Iff.rfl

/-- A generation is marked, or nothing is done. -/
theorem ensures_markReady (c : Current) (gs : Generations) :
    c.markReady.run.Ensures (inMemory admits) gs fun r gs' =>
      ((∃ e, r = .error e) ∧ gs' = gs) ∨
        r = .ok () ∧ ∃ now, gs' = gs.putAll c.generation [(readyMarker, .of 204 [] now)] := by
  unfold markReady
  refine ensures_lift.2 (ensures_now.2 fun t => ?_)
  exact ensures_store.2 ⟨.inr ⟨rfl, _, rfl⟩, fun e => .inl ⟨⟨e, rfl⟩, rfl⟩⟩

/-- Generations are deleted one after another, and none but those named. -/
theorem ensures_deletions (names : List String) (gs : Generations) :
    (all (names.map fun name => store (.deleteGeneration name))).run.Ensures (inMemory admits) gs fun r gs' =>
      (∀ h, gs'.get? h = gs.get? h ∨ h ∈ names ∧ gs'.get? h = none) ∧
        ∀ as, r = .ok as → ∀ h ∈ names, gs'.get? h = none := by
  -- a refusal in between does not keep the others from being deleted, so it is known of each on its own
  let I (done : List (String × Except Error Bool)) (gs' : Generations) : Prop :=
    (∀ h, gs'.get? h = gs.get? h ∨ h ∈ done.map Prod.fst ∧ gs'.get? h = none) ∧
      ∀ x ∈ done, ∀ a, x.2 = .ok a → gs'.get? x.1 = none
  have hstep : ∀ name done gs', I done gs' → (store (.deleteGeneration name)).run.Ensures (inMemory admits) gs'
      fun r gs'' => I (done ++ [(name, r)]) gs'' := by
    rintro name done gs' ⟨hothers, hdone⟩
    have hold {h} (hh : gs'.get? h = gs.get? h ∨ h ∈ done.map Prod.fst ∧ gs'.get? h = none) (r : Except Error Bool) :
        gs'.get? h = gs.get? h ∨ h ∈ (done ++ [(name, r)]).map Prod.fst ∧ gs'.get? h = none := by
      rw [List.map_append, List.mem_append]
      exact hh.imp_right (And.imp_left .inl)
    refine ensures_store.2 ⟨⟨fun h => ?_, fun x hx a ha => ?_⟩, fun e => ⟨fun h => hold (hothers h) _, fun x hx a ha => ?_⟩⟩
    · show Keyed.get? (gs'.erase name) h = _ ∨ _ ∧ Keyed.get? (gs'.erase name) h = _
      rw [Keyed.get?_erase]
      split
      · next hn => exact .inr ⟨by simp [hn], rfl⟩
      · exact hold (hothers h) _
    · show Keyed.get? (gs'.erase name) x.1 = none
      rw [Keyed.get?_erase]
      split
      · rfl
      · next hn =>
        rcases List.mem_append.1 hx with hx | hx
        · exact hdone x hx a ha
        · cases List.mem_singleton.1 hx
          exact absurd rfl hn
    · rcases List.mem_append.1 hx with hx | hx
      · exact hdone x hx a ha
      · cases List.mem_singleton.1 hx
        cases ha
  refine (ensures_all hstep names ⟨fun h => .inl rfl, List.forall_mem_nil _⟩).mono ?_
  rintro r gs' ⟨rs, hlength, ⟨hgs, hrs⟩, rfl⟩
  have hnames : (names.zip rs).map Prod.fst = names := List.map_fst_zip (Nat.le_of_eq hlength.symm)
  refine ⟨fun h => ?_, fun as has h hh => ?_⟩
  · rw [← hnames]
    exact hgs h
  · obtain rfl := mapM_id_eq_ok.1 has
    rw [← hnames] at hh
    obtain ⟨x, hx, rfl⟩ := List.mem_map.1 hh
    obtain ⟨a, -, ha⟩ := List.mem_map.1 (List.of_mem_zip hx).2
    exact hrs x hx a ha.symm

/-- All other generations are dropped, or some of them where the storage refuses. -/
theorem ensures_activate (c : Current) (gs : Generations) :
    c.activate.run.Ensures (inMemory admits) gs fun r gs' =>
      gs'.get? c.generation = gs.get? c.generation ∧ (∀ h, gs'.get? h = gs.get? h ∨ gs'.get? h = none) ∧
        ∀ names, r = .ok names → ∀ h, h ≠ c.generation → gs'.get? h = none := by
  unfold activate
  refine Host.Ensures.stored (fun names hnames => ?_) fun e => ⟨rfl, fun h => .inl rfl, nofun⟩
  cases hnames
  have hstale {h} : h ∈ gs.keys.filter (· ≠ c.generation) ↔ h ∈ gs.keys ∧ h ≠ c.generation := by simp
  have hothers {gs' : Generations}
      (hgs : ∀ h, gs'.get? h = gs.get? h ∨ h ∈ gs.keys.filter (· ≠ c.generation) ∧ gs'.get? h = none) :
      gs'.get? c.generation = gs.get? c.generation ∧ ∀ h, gs'.get? h = gs.get? h ∨ gs'.get? h = none :=
    ⟨(hgs _).resolve_right fun hc => (hstale.1 hc.1).2 rfl, fun h => (hgs h).imp_right And.right⟩
  refine Host.Ensures.attempt (ensures_deletions _ _) ?_ ?_
  · rintro as gs' ⟨hgs, hdeleted⟩
    refine ensures_lift.2 (ensures_log.2 (ensures_pure.2 ⟨(hothers hgs).1, (hothers hgs).2, fun _ _ h hne => ?_⟩))
    by_cases hm : h ∈ gs.keys
    · exact hdeleted as rfl h (hstale.2 ⟨hm, hne⟩)
    · rw [Keyed.mem_keys, Option.not_isSome_iff_eq_none] at hm
      exact ((hothers hgs).2 h).elim (fun he => he.trans hm) id
  · rintro e gs' ⟨hgs, -⟩
    exact ⟨(hothers hgs).1, (hothers hgs).2, nofun⟩

/-! ### What is asked -/

section Questions

variable {P : Question → Prop}

/-- What is obtained for a path is kept under the key that the path leads to. -/
theorem runs_fetchEntry (hfetch : ∀ r, P (.fetch r)) (hnow : P .now) (c : Current) (path : String) :
    (c.fetchEntry path).run.Runs P fun r => ∀ stored, r = .ok stored → c.scope.LeadsTo path stored.1 := by
  unfold fetchEntry
  refine Runs.attempt (runs_settled (c.resolve path)) (fun url hurl => ?_) fun e _ => nofun
  refine Runs.attempt (runs_settled _) (fun request hrequest => ?_) fun e _ => nofun
  refine Runs.attempt (asks_fetch (hfetch request)).withError.runs (fun response _ => ?_) fun e _ => nofun
  have hleads : c.scope.LeadsTo path (cacheKey url) :=
    ⟨url, request, resolve_eq_ok.1 hurl, mapError_eq_ok.1 hrequest, rfl⟩
  have hentry : (do
      return (cacheKey url, Entry.ofResponse response (← now)) : Attempt Error (String × Entry)).run.Runs P
        fun r => ∀ stored, r = .ok stored → c.scope.LeadsTo path stored.1 := by
    rw [lift_bind]
    refine (asks_now hnow).runs_bind fun time => runs_pure fun stored hstored => ?_
    cases hstored
    exact hleads
  dsimp only
  split
  · exact runs_pure nofun
  · exact hentry

/-- What is put into a generation that is filled is kept under keys that the paths of the list lead to. -/
theorem asks_install (hfetch : ∀ r, P (.fetch r)) (hnow : P .now) (hlog : ∀ record, P (.log record))
    (hopen : P (.store (.openGeneration c.generation))) (m : Manifest)
    (hput : ∀ entries : List (String × Entry), (∀ stored ∈ entries, ∃ path ∈ m.paths, c.scope.LeadsTo path stored.1) →
      P (.store (.putAll c.generation entries))) : Asks P (c.install m).run := by
  unfold install
  refine Asks.attempt (asks_store hopen) fun _ => ?_
  have hentry : ∀ path ∈ m.paths, (c.fetchEntry path).run.Runs P fun r =>
      ∀ stored, r = .ok stored → ∃ path ∈ m.paths, c.scope.LeadsTo path stored.1 := by
    intro path hpath
    have hruns := c.runs_fetchEntry hfetch hnow path
    exact Runs.mono hruns (fun _ => id) fun r hr stored hstored => ⟨path, hpath, hr stored hstored⟩
  refine asks_attempt_of_runs (runs_all hentry) fun entries hentries => ?_
  refine Asks.attempt (asks_store (hput entries (hentries entries rfl))) fun _ => ?_
  exact Asks.attempt (asks_log (hlog _)).lift fun _ => asks_pure _

variable {names : String → Prop}

theorem names_of_mem (hc : names c.generation) : ∀ g ∈ some c.generation, names g := fun _ hg => Option.some.inj hg ▸ hc

theorem names_install (hc : names c.generation) (m : Manifest) : Asks (Question.Names names) (c.install m).run :=
  asks_install (fun _ => trivial) trivial (fun _ => trivial) (names_of_mem hc) m fun _ _ => names_of_mem hc

theorem names_add (hc : names c.generation) (path : String) : Asks (Question.Names names) (c.add path).run :=
  (asks_of_runs (c.runs_fetchEntry (fun _ => trivial) trivial path)).attempt fun _ => asks_store (names_of_mem hc)

theorem names_isReady (hc : names c.generation) : Asks (Question.Names names) c.isReady.run :=
  Asks.attempt (asks_store (names_of_mem hc)) fun _ => asks_pure _

theorem names_markReady (hc : names c.generation) : Asks (Question.Names names) c.markReady.run :=
  Asks.attempt (asks_now trivial).lift fun _ => asks_store (names_of_mem hc)

end Questions
end Current
end Cache
end EdgeWorker
