import EdgeWorker.Proofs.Cache.Current
import EdgeWorker.Proofs.Cache.Snapshot
import EdgeWorker.Proofs.Host.Reliable
import EdgeWorker.Proofs.Template.Run

/-!
Filling a generation over a storage in memory that refuses nothing.

* `Fetched` — what came of one path, and what was fetched for it;
* `ensures_fetchEntries_fetched` — every path from which a request can be built is fetched once, in the order of the list;
* `install_spec` — an installation that fails leaves all entries as they were, and one that succeeds has for every path
  what the network answered to the last path with the same key.
-/

namespace EdgeWorker.Cache

open EdgeWorker.Action EdgeWorker.Host Generations

variable {admits : Http.Request → Except Fetch.Error Http.Response → Prop} {s : Generations × Fetches} {c : Current}

namespace Current

/-- What came of a path, with what was fetched for it: nothing but its request, if there is one. -/
def Fetched (c : Current) (path : String) (result : Except Error (String × Entry)) (fs : Fetches) : Prop :=
  fs.map Prod.fst = (c.requestOf? path).toList ∧
    ∀ stored, result = .ok stored → ∃ fetched, fs = [fetched] ∧ c.Records path fetched stored

/-! ### Fetching -/

theorem exists_fetchEntry_eq {path : String} {request : Http.Request} (h : c.requestOf? path = some request) :
    ∃ url, c.resolve path = .ok url ∧ c.keyOf? path = some (cacheKey url) ∧
      c.fetchEntry path = withError (Error.fetch url.text) (fetch request) >>= fun response => do
        if !response.isSuccess then throw (.status url.text response.status)
        return (cacheKey url, Entry.ofResponse response (← now)) := by
  obtain ⟨url, hurl, hrequest⟩ := requestOf?_eq_some.1 h
  have hresolve := resolve_eq_ok.2 hurl
  refine ⟨url, hresolve, keyOf?_eq_some.2 ⟨url, hurl, rfl⟩, ?_⟩
  unfold fetchEntry
  rw [hresolve, settled_bind]
  dsimp only
  rw [hrequest]
  rfl

theorem exists_fetchEntry_error {path : String} (h : c.requestOf? path = none) :
    ∃ e, (c.fetchEntry path).run = pure (.error e) := by
  unfold fetchEntry resolve
  unfold requestOf? at h
  cases hurl : c.scope.resolve path with
  | error e => exact ⟨_, rfl⟩
  | ok url =>
    rw [hurl] at h
    dsimp only at h
    rw [settled_bind]
    dsimp only
    cases hr : Fetch.getRequest url with
    | error e => exact ⟨_, rfl⟩
    | ok request => rw [hr] at h; cases h

theorem ensures_fetchEntry_fetched (c : Current) (path : String) (s : Generations × Fetches) :
    (c.fetchEntry path).run.Ensures (reliable admits) s fun result s' =>
      s'.1 = s.1 ∧ ∃ fs, s'.2 = s.2 ++ fs ∧ c.Fetched path result fs := by
  cases hrequest : c.requestOf? path with
  | none =>
    obtain ⟨e, he⟩ := exists_fetchEntry_error hrequest
    rw [he]
    exact ensures_pure.2 ⟨rfl, [], (List.append_nil _).symm, by rw [hrequest]; rfl, nofun⟩
  | some request =>
    obtain ⟨url, -, hkey, hfetch⟩ := exists_fetchEntry_eq hrequest
    have hfailed (e : Error) (a : Except Fetch.Error Http.Response) : s.1 = s.1 ∧
        ∃ fs, s.2 ++ [(request, a)] = s.2 ++ fs ∧ c.Fetched path (.error e) fs :=
      ⟨rfl, _, rfl, by rw [hrequest]; rfl, nofun⟩
    rw [hfetch]
    refine Host.Ensures.attempt (R := fun result s' => ∃ a, s' = (s.1, s.2 ++ [(request, a)]) ∧
      ∀ response, result = .ok response → a = .ok response) ?_ ?_ ?_
    · exact ensures_withError.2 (ensures_fetched.2 fun a _ => ⟨a, rfl, fun response => mapError_eq_ok.1⟩)
    · rintro response _ ⟨a, rfl, ha⟩
      obtain rfl := ha response rfl
      dsimp only
      split
      · exact ensures_pure.2 (hfailed _ _)
      · next hsuccess =>
        refine ensures_lift.2 ((ensures_aside (asks_now trivial)).mono ?_)
        rintro time _ rfl
        refine ensures_pure.2 ⟨rfl, _, rfl, by rw [hrequest]; rfl, ?_⟩
        rintro stored ⟨⟩
        exact ⟨_, rfl, hrequest, hkey, response, time, rfl, by simpa using hsuccess, rfl⟩
    · rintro e _ ⟨a, rfl, -⟩
      exact hfailed e a

/-- What was fetched for paths are their requests. -/
theorem requests_of_fetched {done : List (String × Except Error (String × Entry))} {fss : List Fetches}
    (h : List.Forall₂ (fun x => c.Fetched x.1 x.2) done fss) :
    fss.flatten.map Prod.fst = (done.map Prod.fst).filterMap c.requestOf? := by
  induction h with
  | nil => rfl
  | @cons x fs done fss hx _ ih =>
    rw [List.flatten_cons, List.map_append, hx.1, ih, List.map_cons, List.filterMap_cons]
    cases c.requestOf? x.1 <;> rfl

/-- Where nothing failed, the answers and the entries are those of the paths, one by one. -/
theorem records_of_fetched {paths : List String} {entries : List (String × Entry)} {fss : List Fetches}
    (hlength : entries.length = paths.length)
    (h : List.Forall₂ (fun x => c.Fetched x.1 x.2) (paths.zip (entries.map .ok)) fss) {i : Nat} {path : String}
    (hi : paths[i]? = some path) :
    ∃ fetched stored, fss.flatten[i]? = some fetched ∧ entries[i]? = some stored ∧ c.Records path fetched stored := by
  induction paths generalizing entries fss i with
  | nil => cases hi
  | cons p paths ih =>
    obtain ⟨e, entries, rfl⟩ := List.exists_cons_of_length_eq_add_one hlength
    obtain ⟨fs, fss, hp, hrest, rfl⟩ := List.forall₂_cons_left_iff.1 h
    obtain ⟨fetched, rfl, hrecords⟩ := hp.2 e rfl
    cases i with
    | zero =>
      cases hi
      exact ⟨fetched, e, rfl, rfl, hrecords⟩
    | succ i => exact ih (Nat.succ.inj hlength) hrest hi

/-- Every path from which a request can be built is fetched once, in the order of the list, and nothing is stored. -/
theorem ensures_fetchEntries_fetched (c : Current) (paths : List String) (s : Generations × Fetches) :
    (all (paths.map c.fetchEntry)).run.Ensures (reliable admits) s fun result s' => s'.1 = s.1 ∧
      ∃ fs, s'.2 = s.2 ++ fs ∧ fs.map Prod.fst = paths.filterMap c.requestOf? ∧
        ∀ entries, result = .ok entries → entries.length = paths.length ∧ ∀ (i : Nat) path, paths[i]? = some path →
          ∃ fetched stored, fs[i]? = some fetched ∧ entries[i]? = some stored ∧ c.Records path fetched stored := by
  -- what was fetched so far is known for each path on its own
  let I (done : List (String × Except Error (String × Entry))) (s' : Generations × Fetches) : Prop :=
    s'.1 = s.1 ∧ ∃ fss, List.Forall₂ (fun x => c.Fetched x.1 x.2) done fss ∧ s'.2 = s.2 ++ fss.flatten
  have hstep : ∀ path done s', I done s' → (c.fetchEntry path).run.Ensures (reliable admits) s' fun result s'' =>
      I (done ++ [(path, result)]) s'' := by
    rintro path done s' ⟨hgs, fss, hdone, hfs⟩
    refine (c.ensures_fetchEntry_fetched path s').mono ?_
    rintro result s'' ⟨hgs', fs, hfs', hfetched⟩
    refine ⟨hgs'.trans hgs, fss ++ [fs], List.rel_append hdone (.cons hfetched .nil), ?_⟩
    rw [hfs', hfs, List.flatten_append, List.append_assoc, List.flatten_singleton]
  refine (ensures_all hstep paths ⟨rfl, [], .nil, (List.append_nil _).symm⟩).mono ?_
  rintro _ s' ⟨rs, hlength, ⟨hgs, fss, hfetched, hfs⟩, rfl⟩
  refine ⟨hgs, fss.flatten, hfs, ?_, fun entries hentries => ?_⟩
  · rw [requests_of_fetched hfetched, List.map_fst_zip (Nat.le_of_eq hlength.symm)]
  · obtain rfl := mapM_id_eq_ok.1 hentries
    rw [List.length_map] at hlength
    exact ⟨hlength, fun i path => records_of_fetched hlength hfetched⟩

/-! ### Installing -/

/-- The last one of a list with a property. -/
theorem exists_last {α : Type} {P : α → Prop} {xs : List α} (h : ∃ x ∈ xs, P x) :
    ∃ (i : Nat) (x : α), xs[i]? = some x ∧ P x ∧ ∀ (j : Nat) (y : α), i < j → xs[j]? = some y → ¬ P y := by
  induction xs with
  | nil => simp at h
  | cons x xs ih =>
    by_cases hrest : ∃ y ∈ xs, P y
    · obtain ⟨i, y, hi, hy, hlast⟩ := ih hrest
      refine ⟨i + 1, y, hi, hy, fun j z hj hz => ?_⟩
      obtain ⟨j, rfl⟩ := Nat.exists_eq_succ_of_ne_zero (Nat.ne_zero_of_lt hj)
      exact hlast j z (Nat.lt_of_succ_lt_succ hj) hz
    · have hx : P x := by
        obtain ⟨y, hy, hp⟩ := h
        rcases List.mem_cons.1 hy with rfl | hy
        · exact hp
        · exact absurd ⟨y, hy, hp⟩ hrest
      refine ⟨0, x, rfl, hx, fun j z hj hz hp => hrest ?_⟩
      obtain ⟨j, rfl⟩ := Nat.exists_eq_succ_of_ne_zero (Nat.ne_zero_of_lt hj)
      exact ⟨z, List.mem_of_getElem? hz, hp⟩

section Entries

variable {paths : List String} {fs : Fetches} {entries : List (String × Entry)} {i : Nat} {path : String}

/-- Of paths with the same key the last one has its entry stored. -/
theorem exists_entry_of_records (hlength : entries.length = paths.length)
    (h : ∀ (i : Nat) path, paths[i]? = some path → ∃ fetched stored, fs[i]? = some fetched ∧ entries[i]? = some stored ∧
      c.Records path fetched stored) (hi : paths[i]? = some path)
    (hlast : ∀ (j : Nat) p, i < j → paths[j]? = some p → c.keyOf? p ≠ c.keyOf? path) :
    ∃ fetched stored, fs[i]? = some fetched ∧ c.Records path fetched stored ∧
      (Keyed.ofList entries).get? stored.1 = some stored.2 := by
  obtain ⟨fetched, stored, hfetched, hstored, hrecords⟩ := h i path hi
  refine ⟨fetched, stored, hfetched, hrecords, Keyed.get?_ofList_of_last hstored fun j e hj he hkey => ?_⟩
  obtain ⟨p, hp⟩ : ∃ p, paths[j]? = some p :=
    ⟨_, List.getElem?_eq_getElem (hlength ▸ (List.getElem?_eq_some_iff.1 he).1)⟩
  obtain ⟨-, other, -, hother, -, hpkey, -⟩ := h j p hp
  obtain rfl : other = e := Option.some.inj (hother.symm.trans he)
  exact hlast j p hj hp (by rw [hpkey, hrecords.2.1, hkey])

/-- What is stored is stored under the keys of the paths. -/
theorem get?_eq_none_of_records (hlength : entries.length = paths.length)
    (h : ∀ (i : Nat) path, paths[i]? = some path → ∃ fetched stored, fs[i]? = some fetched ∧ entries[i]? = some stored ∧
      c.Records path fetched stored) {url : String} (hurl : ∀ path ∈ paths, c.keyOf? path ≠ some url) :
    (Keyed.ofList entries).get? url = none := by
  refine Keyed.get?_ofList_eq_none fun hmem => ?_
  obtain ⟨e, he, rfl⟩ := List.mem_map.1 hmem
  obtain ⟨i, hi⟩ := List.mem_iff_getElem?.1 he
  obtain ⟨p, hp⟩ : ∃ p, paths[i]? = some p :=
    ⟨_, List.getElem?_eq_getElem (hlength ▸ (List.getElem?_eq_some_iff.1 hi).1)⟩
  obtain ⟨-, stored, -, hstored, -, hkey, -⟩ := h i p hp
  obtain rfl : stored = e := Option.some.inj (hstored.symm.trans hi)
  exact hurl p (List.mem_of_getElem? hp) hkey

end Entries

theorem ensures_install_fetched (c : Current) (m : Manifest) (s : Generations × Fetches) :
    (c.install m).run.Ensures (reliable admits) s fun result s' => ∃ fs, s'.2 = s.2 ++ fs ∧
      fs.map Prod.fst = m.paths.filterMap c.requestOf? ∧ match result with
        | .error _ => s'.1 = s.1.openGeneration c.generation
        | .ok n => ∃ entries, s'.1 = (s.1.openGeneration c.generation).putAll c.generation entries ∧
          n = m.paths.length ∧ entries.length = m.paths.length ∧ ∀ (i : Nat) path, m.paths[i]? = some path →
            ∃ fetched stored, fs[i]? = some fetched ∧ entries[i]? = some stored ∧ c.Records path fetched stored := by
  unfold install
  refine Host.Ensures.attempt (R := fun result s' => result = .ok () ∧ s' = (s.1.openGeneration c.generation, s.2))
    (ensures_performed.2 ⟨rfl, rfl⟩) ?_ (fun e s' h => by cases h.1)
  rintro ⟨⟩ _ ⟨-, rfl⟩
  refine Host.Ensures.attempt (c.ensures_fetchEntries_fetched m.paths _) ?_ ?_
  · rintro entries ⟨_, fetched⟩ ⟨rfl, fs, rfl, hrequests, hentries⟩
    obtain ⟨hlength, hrecords⟩ := hentries entries rfl
    refine Host.Ensures.attempt (R := fun result s' => result = .ok () ∧
      s' = ((s.1.openGeneration c.generation).putAll c.generation entries, s.2 ++ fs))
      (ensures_performed.2 ⟨rfl, rfl⟩) ?_ (fun e s' h => by cases h.1)
    rintro ⟨⟩ _ ⟨-, rfl⟩
    refine ensures_lift.2 ((ensures_aside (asks_log trivial)).mono ?_)
    rintro _ _ rfl
    exact ensures_pure.2 ⟨fs, rfl, hrequests, entries, rfl, hlength, hlength, hrecords⟩
  · rintro e ⟨_, fetched⟩ ⟨rfl, fs, rfl, hrequests, -⟩
    exact ⟨fs, rfl, hrequests, rfl⟩

/-- The entry of a path is looked up under its key. -/
theorem run_entryOf? {τ : Type} {handle : Handler τ} (hw : Willing handle) {path key : String}
    (hkey : c.keyOf? path = some key) (gs : Generations) (t : τ) :
    ((c.entryOf? path).run.run (keeping Generations.perform handle) (gs, t)).1 = .ok (gs.entryAt? c.generation key) := by
  obtain ⟨url, hurl, rfl⟩ := keyOf?_eq_some.1 hkey
  refine run_reliable_any hw (Q := fun result _ => result = _) ?_
  unfold entryOf?
  rw [resolve_eq_ok.2 hurl, settled_bind]
  exact ensures_performed.2 rfl

variable {τ : Type} {handle : Handler τ}

/-- Every path of the list from which a request can be built is fetched once. If the installation fails, every entry is
what it was, and there is at most the current generation more. If it succeeds, it is with the number of the paths; every
path then has an entry that keeps what the network answered to the last path with the same key, and nothing else was
changed. -/
theorem install_spec (hw : Willing handle) (c : Current) (m : Manifest) (gs : Generations) (t : τ) :
    let fetched := fetches ((c.install m).run.exchanges (keeping Generations.perform handle) (gs, t))
    let after := (c.install m).run.run (keeping Generations.perform handle) (gs, t)
    fetched.map Prod.fst = m.paths.filterMap c.requestOf? ∧
    (∀ e, after.1 = .error e → (∀ g url, (after.2.1.perform (.get g url)).1 = (gs.perform (.get g url)).1) ∧
      (after.2.1.keys = gs.keys ∨ after.2.1.keys = gs.keys ++ [c.generation])) ∧
    ∀ n, after.1 = .ok n → n = m.paths.length ∧
      (∀ path ∈ m.paths, ∃ (i : Nat) (last : String) (request : Http.Request) (response : Http.Response) (entry : Entry),
        (m.paths[i]? = some last ∧ c.keyOf? last = c.keyOf? path ∧
          ∀ (j : Nat) p, i < j → m.paths[j]? = some p → c.keyOf? p ≠ c.keyOf? path) ∧
        c.requestOf? last = some request ∧ fetched[i]? = some (request, .ok response) ∧
        ((c.entryOf? path).run.run (keeping Generations.perform handle) after.2).1 = .ok (some entry) ∧
        entry.Keeps response) ∧
      ∀ g url, (g ≠ c.generation ∨ ∀ path ∈ m.paths, c.keyOf? path ≠ some url) →
        (after.2.1.perform (.get g url)).1 = (gs.perform (.get g url)).1 := by
  intro fetched after
  obtain ⟨fs, hfs, hrequests, hresult⟩ := run_reliable_any hw (t := t)
    (c.ensures_install_fetched m (gs, []))
  obtain rfl : fetched = fs := hfs
  refine ⟨hrequests, fun e he => ?_, fun n hn => ?_⟩
  · rw [show ((c.install m).run.run _ _).1 = _ from he] at hresult
    replace hresult : after.2.1 = gs.openGeneration c.generation := hresult
    rw [hresult]
    refine ⟨fun g url => congrArg Except.ok (entryAt?_openGeneration gs _ g url), ?_⟩
    rw [keys_openGeneration]
    split
    · exact .inl rfl
    · exact .inr rfl
  · rw [show ((c.install m).run.run _ _).1 = _ from hn] at hresult
    obtain ⟨entries, hafter, rfl, hlength, hrecords⟩ := hresult
    replace hafter : after.2.1 = (gs.openGeneration c.generation).putAll c.generation entries := hafter
    refine ⟨rfl, fun path hpath => ?_, fun g url hurl => ?_⟩
    · obtain ⟨i, last, hi, hkey, hlast⟩ := exists_last (P := fun p => c.keyOf? p = c.keyOf? path) ⟨path, hpath, rfl⟩
      obtain ⟨⟨request, answer⟩, stored, hfetched, ⟨hrequest, hstored, response, now, rfl, -, hentry⟩, hget⟩ :=
        exists_entry_of_records hlength hrecords hi fun j p hj hp => hkey ▸ hlast j p hj hp
      refine ⟨i, last, request, response, stored.2, ⟨hi, hkey, hlast⟩, hrequest, hfetched, ?_, ?_⟩
      · have hfound : after.2.1.entryAt? c.generation stored.1 = some stored.2 := by
          rw [hafter, entryAt?_putAll_self, hget, Option.some_or]
        rw [← hfound]
        exact run_entryOf? hw (hkey.symm.trans hstored) after.2.1 after.2.2
      · exact hentry ▸ Entry.keeps_ofResponse response now
    · refine congrArg Except.ok ?_
      show after.2.1.entryAt? g url = gs.entryAt? g url
      rw [hafter]
      by_cases hg : g = c.generation
      · subst hg
        rw [entryAt?_putAll_self, get?_eq_none_of_records hlength hrecords (hurl.resolve_left fun h => h rfl),
          Option.none_or, entryAt?_openGeneration]
      · rw [entryAt?_putAll_of_ne hg, entryAt?_openGeneration]

/-- A network that answers with the address that was asked for, and with values of headers of which one is a text. -/
def echoing : Handler Unit := Template.serving fun address => .ok { mixed with body := Text.bytes address }

/-- A list with two paths that have one key. -/
def repeated : Manifest := ⟨["/a", "/b", "/a#x"]⟩

/-- All three are fetched, and both paths with one key find an entry, which has the header that is a text. -/
theorem install_spec_of_repeated : Willing echoing ∧
    (fetches ((Template.rootCache.install repeated).run.exchanges (keeping Generations.perform echoing)
      (Generations.empty, ()))).map (·.1.target.text) = ["https://e.c/a", "https://e.c/b", "https://e.c/a"] ∧
    ((Template.rootCache.install repeated).run.run (keeping Generations.perform echoing) (Generations.empty, ())).1 = .ok 3 ∧
    ∃ entry, ((Template.rootCache.entryOf? "/a").run.run (keeping Generations.perform echoing)
      ((Template.rootCache.install repeated).run.run (keeping Generations.perform echoing) (Generations.empty, ())).2).1 =
        .ok (some entry) ∧ entry.headers.map (fun h => (h.1, Text.bytes h.2)) = [("a", [0x78])] := by
  have hw : Willing echoing := Template.serving_willing _
  have hok : ((Template.rootCache.install repeated).run.run (keeping Generations.perform echoing)
      (Generations.empty, ())).1 = .ok 3 := by decide +kernel
  obtain ⟨hrequests, -, hdone⟩ := install_spec hw Template.rootCache repeated Generations.empty ()
  obtain ⟨_, _, _, response, entry, -, -, hfetched, hentry, hkeeps⟩ := (hdone 3 hok).2.1 "/a" List.mem_cons_self
  have hheaders : ∀ x ∈ fetches ((Template.rootCache.install repeated).run.exchanges (keeping Generations.perform echoing)
      (Generations.empty, ())), x.2.toOption.map (·.headers) = some mixed.headers := by decide +kernel
  have hresponse : response.headers = mixed.headers := Option.some.inj (hheaders _ (List.mem_of_getElem? hfetched))
  refine ⟨hw, ?_, hok, entry, hentry, by rw [hkeeps.headers, hresponse]; decide +kernel⟩
  have htargets := congrArg (List.map fun r : Http.Request => r.target.text) hrequests
  rw [List.map_map] at htargets
  exact htargets.trans (by decide +kernel)

end Current
end EdgeWorker.Cache
