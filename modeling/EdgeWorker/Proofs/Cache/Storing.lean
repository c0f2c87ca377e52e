import EdgeWorker.Proofs.Cache.Rollback
import EdgeWorker.Proofs.Cache.Snapshot

/-!
A response on its way through a store.

* `put_trial` — an entry that was put is found;
* `run_put` — where both lists can be read, a store that does not fail takes it;
* `stored_spec` — a response comes back from the store as it was, but for the values of headers that are no texts.
-/

namespace EdgeWorker.Cache.Persistent

open EdgeWorker.Http KeyValue

variable {c c' : Contents} {t : List Exchange} {g url : String} {e : Entry} {names urls : List String}

/-- An entry that was put is found under its address. -/
theorem put_trial (h : Trial c (perform (.put g url e)) t (.ok ()) c') : entryOf (c' (entryKey g url)) = .ok (some e) := by
  have hput : Trial c (setAll (texts g [(url, e)]) >>= fun _ => publish g [(url, e)]).run t (.ok ()) c' := h
  rcases trial_attempt.1 hput with ⟨t₁, t₂, _, d, -, h₁, h₂⟩ | ⟨_, -, he⟩
  · rcases setAll_trial h₁ with ⟨-, rfl⟩ | ⟨⟨_, he⟩, -⟩
    · have hfound := (written_of_publish h₂).found url
      have hentry : (Keyed.ofList [(url, e)]).get? url = some e := Keyed.get?_put_self _ url e
      rw [hentry, answerOf_get] at hfound
      exact hfound
    · cases he
  · cases he

/-- Where both lists can be read, a store that does not fail takes an entry. -/
theorem run_put (hnames : answerOf c .generations = .ok names) (hurls : answerOf c (.urls g) = .ok urls) (url : String)
    (e : Entry) : answerOf c (.put g url e) = .ok () := by
  rw [answerOf_generations] at hnames
  rw [answerOf_urls] at hurls
  cases hindex : listOf (c (indexKey g)) with
  | error e => rw [hindex] at hurls; cases hurls
  | ok urls' => exact congrArg Prod.fst (run_putAll hnames hindex [(url, e)])

/-- Every response comes back from its entry with its status, its body and its headers, of which only the values that are no
texts are missing: the names that have a text are there in their order, and with their texts in their order. To put the
entry into a store and to get it again does not change it. -/
theorem stored_spec (r : Response) (now : Timestamp) : let e := Entry.ofResponse r now
    (∃ out, e.response = .ok out ∧ out.status = r.status ∧ out.body = r.body ∧
      out.headers.keys = r.headers.keys.filter (fun name => (r.headers.values name).any (·.IsText)) ∧
      ∀ name, out.headers.values name = (r.headers.values name).filter (·.IsText)) ∧
    ∀ g url c,
      (∀ names urls, answerOf c .generations = .ok names → answerOf c (.urls g) = .ok urls →
        answerOf c (.put g url e) = .ok ()) ∧
      ∀ t c', Trial c (perform (.put g url e)) t (.ok ()) c' →
        answerOf c' (.get g url) = .ok (some e) ∧
        ∀ t' stored c'', Trial c' (perform (.get g url)) t' (.ok stored) c'' → stored = some e := by
  intro e
  refine ⟨⟨_, Entry.response_ofResponse_eq r now, rfl, rfl, r.headers.keys_texts, r.headers.values_texts⟩,
    fun g url c => ⟨fun names urls hnames hurls => run_put hnames hurls url e, fun t c' hput => ?_⟩⟩
  have hstored := put_trial hput
  refine ⟨(answerOf_get c' g url).trans hstored, fun t' stored c'' hget => ?_⟩
  have hread : entryOf (c' (entryKey g url)) = .ok stored := (getEntry_trial hget).2 stored rfl
  exact Except.ok.inj (hread.symm.trans hstored)

/-- One name is left with one value, and the entry comes back from a store that was empty. -/
theorem stored_spec_of_mixed : let e := Entry.ofResponse mixed .epoch
    (∃ out, e.response = .ok out ∧ out.body = [0xFF] ∧ out.headers.keys.map HeaderName.text = ["a"] ∧
      ∀ name ∈ out.headers.keys, (out.headers.values name).map HeaderValue.bytes = [[0x78]]) ∧
    answerOf (after (fun _ => none) (.put "v1" "a" e)) (.get "v1" "a") = .ok (some e) := by
  intro e
  obtain ⟨⟨out, hout, -, hbody, hkeys, hvalues⟩, hstore⟩ := stored_spec mixed .epoch
  refine ⟨⟨out, hout, hbody, ?_, fun name hname => ?_⟩, ?_⟩
  · rw [hkeys]
    decide +kernel
  · rw [hkeys] at hname
    rw [hvalues]
    revert name
    decide +kernel
  · have hurls : answerOf (fun _ => none) (.urls "v1") = .ok [] := by
      rw [answerOf_urls]
      simp [Except.map, sorted]
    obtain ⟨hput, hget⟩ := hstore "v1" "a" fun _ => none
    have htrial := trial_after (fun _ => none) (.put "v1" "a" e)
    rw [hput [] [] (answerOf_generations _) hurls] at htrial
    exact (hget _ _ htrial).1

end EdgeWorker.Cache.Persistent
