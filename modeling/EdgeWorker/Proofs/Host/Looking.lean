import EdgeWorker.Proofs.Host.Reliable

/-!
Jobs that only look up entries of one generation, and what they fetch.

* `looking g look admits` — the law of surroundings in which the generation `g` has the entries `look`; what is known of a
  job under it holds of a run over any storage that has them (`run_looking`);
* `Leads W m E fs` — within a law, a job ends in a result with `E` and has fetched just `fs`;
* `outcome`, `sent` — what a job that asks nothing but the network comes to (`leads_sends`). It is the same over
  all storages.
-/

namespace EdgeWorker.Host

open EdgeWorker.Action EdgeWorker.Cache

variable {κ τ α β ε δ : Type} {g : String} {look : String → Option Entry}
  {admits : Http.Request → Except Fetch.Error Http.Response → Prop} {before fs fs' : Fetches}

/-! ### Looking up entries -/

/-- The law of surroundings in which a generation has these entries, as long as nothing that is stored is changed. The
state is what was fetched so far. -/
def looking (g : String) (look : String → Option Entry) (admits : Http.Request → Except Fetch.Error Http.Response → Prop) :
    Law Answer Fetches
  | fs, .store (.get h url), a, fs' => (h = g → a = .ok (look url)) ∧ fs' = fs
  | fs, .fetch r, a, fs' => admits r a ∧ fs' = fs ++ [(r, a)]
  | fs, _, _, fs' => fs' = fs

/-- Over a storage that has these entries, what the law ensures of a job that changes nothing holds of its run. -/
theorem run_looking {perform : κ → (op : Operation) → op.Answer × κ} {st : κ} {handle : Handler τ} {m : Job α}
    {Q : α → Fetches → Prop} (hm : m.Ensures (looking g look admits) before Q) (hasks : Asks Question.Reads m)
    (hget : ∀ h url, (perform st (.get h url)).2 = st) (hlook : ∀ url, (perform st (.get g url)).1 = .ok (look url))
    (hw : Willing handle) (hadmits : ∀ r t, admits r (handle (.fetch r) t).1) (t : τ) :
    Q (m.run (keeping perform handle) (st, t)).1
      (before ++ fetches (m.exchanges (keeping perform handle) (st, t))) := by
  have hruns := hasks.runs
  clear hasks
  induction m generalizing before t with
  | done a =>
    rw [exchanges, fetches, List.filterMap_nil, List.append_nil]
    exact ensures_pure.1 hm
  | ask q next ih =>
    have hstep : looking g look admits before q (keeping perform handle q (st, t)).1
        (before ++ fetches [⟨q, (keeping perform handle q (st, t)).1⟩]) ∧ (keeping perform handle q (st, t)).2.1 = st := by
      cases q with
      | store op =>
        obtain ⟨a, ha⟩ := hw op t
        have hr : handle (.store op) t = (.ok a, (handle (.store op) t).2) := Prod.ext ha rfl
        cases op with
        | get h url =>
          simp only [keeping]
          rw [hr]
          refine ⟨⟨?_, List.append_nil _⟩, hget h url⟩
          rintro rfl
          exact hlook url
        | _ => exact hruns.1.elim
      | fetch r => exact ⟨⟨hadmits r t, rfl⟩, rfl⟩
      | _ => exact ⟨List.append_nil _, rfl⟩
    rw [exchanges, fetches_cons, ← List.append_assoc, Action.run]
    generalize keeping perform handle q (st, t) = answered at hstep ⊢
    obtain ⟨a, k, t'⟩ := answered
    obtain ⟨hlaw, rfl⟩ := hstep
    exact ih a (ensures_ask.1 hm _ _ hlaw) t' (hruns.2 a)

theorem ensures_looked {url : String} {Q : Except Cache.Error (Option Entry) → Fetches → Prop} :
    (store (.get g url)).run.Ensures (looking g look admits) before Q ↔ Q (.ok (look url)) before := by
  refine ensures_question.trans ?_
  constructor
  · exact fun h => h _ _ ⟨fun _ => rfl, rfl⟩
  · rintro h a s' ⟨ha, rfl⟩
    rw [ha rfl]
    exact h

theorem ensures_sent {r : Http.Request} {Q : Except Fetch.Error Http.Response → Fetches → Prop} :
    (fetch r).run.Ensures (looking g look admits) before Q ↔ ∀ a, admits r a → Q a (before ++ [(r, a)]) := by
  refine ensures_question.trans ?_
  constructor
  · exact fun h a ha => h a _ ⟨ha, rfl⟩
  · rintro h a s' ⟨ha, rfl⟩
    exact h a ha

theorem looking_of_isAside {q : Question} (h : q.IsAside) {a : Answer q} {after : Fetches}
    (ha : looking g look admits before q a after) : after = before := by
  cases q <;> first | exact h.elim | exact ha

/-- What asks neither the network nor the storage fetches nothing. -/
theorem ensures_looking_aside {m : Job α} {E : α → Prop} (h : m.Runs Question.IsAside E) :
    m.Ensures (looking g look admits) before fun a after => E a ∧ after = before :=
  h.ensures fun _ hq _ _ ha => looking_of_isAside hq ha

/-! ### What a job comes to -/

variable {W : Law Answer Fetches} {m : Job α} {E : α → Prop} {F : β → Prop}

/-- Within a law, a job ends in a result with `E` and has fetched just `fs`. -/
def Leads (W : Law Answer Fetches) (m : Job α) (E : α → Prop) (fs : Fetches) : Prop :=
  ∀ before, m.Ensures W before fun a after => E a ∧ after = before ++ fs

/-- What is known of the first part of a result. -/
theorem Leads.of_fst {m : Job (α × β)} {a : α} (h : Leads W (m >>= fun p => pure p.1) (· = a) fs) :
    Leads W m (fun p => p.1 = a) fs := fun before =>
  (ensures_bind.1 (h before)).mono fun _ _ => ensures_pure.1

theorem leads_pure {a : α} (h : E a) : Leads W (pure a) E [] := fun before =>
  ensures_pure.2 ⟨h, (List.append_nil before).symm⟩

theorem Leads.bind {f : α → Job β} (h : Leads W m E fs) (hf : ∀ a, E a → Leads W (f a) F fs') :
    Leads W (m >>= f) F (fs ++ fs') := by
  refine fun before => Action.Ensures.bind (h before) ?_
  rintro a _ ⟨ha, rfl⟩
  rw [← List.append_assoc]
  exact hf a ha _

theorem Leads.bind_nil {f : α → Job β} (h : Leads W m E []) (hf : ∀ a, E a → Leads W (f a) F fs) :
    Leads W (m >>= f) F fs := h.bind hf

theorem leads_of_aside (h : m.Runs Question.IsAside E) : Leads (looking g look admits) m E [] := fun before =>
  (ensures_looking_aside h).mono fun _ _ ha => ⟨ha.1, ha.2.trans (List.append_nil before).symm⟩

/-- An aside first makes no difference to what is fetched. -/
theorem leads_aside_bind {f : α → Job β} (h : Asks Question.IsAside m) (hf : ∀ a, Leads (looking g look admits) (f a) F fs) :
    Leads (looking g look admits) (m >>= f) F fs := (leads_of_aside h.runs).bind_nil fun a _ => hf a

/-! ### Jobs that ask nothing but the network -/

/-- The question is to the network or for a log record. -/
def Question.Sends : Question → Prop
  | .fetch _ => True
  | .log _ => True
  | _ => False

/-- A network with what was fetched so far. -/
def sending (network : Http.Request → Except Fetch.Error Http.Response) : Handler Fetches
  | .fetch r, fs => (network r, fs ++ [(r, network r)])
  | .store op, fs => ((Generations.empty.perform op).1, fs)
  | .log _, fs => ((), fs)
  | .now, fs => (.epoch, fs)
  | .clock, fs => (0, fs)
  | .freshId, fs => ("", fs)

variable {network : Http.Request → Except Fetch.Error Http.Response}

/-- What a job ends in that asks nothing but this network. -/
def outcome (network : Http.Request → Except Fetch.Error Http.Response) (m : Job α) : α := (m.run (sending network) []).1

def sent (network : Http.Request → Except Fetch.Error Http.Response) (m : Job α) : Fetches := (m.run (sending network) []).2

/-- Only what a job asks for is fetched. -/
theorem forall_sent {P : Question → Prop} (h : Asks P m) : ∀ x ∈ sent network m, P (.fetch x.1) := by
  have hruns := h.runs
  clear h
  suffices hfrom : ∀ fs, (∀ x ∈ fs, P (.fetch x.1)) → ∀ x ∈ (m.run (sending network) fs).2, P (.fetch x.1) from
    hfrom [] (List.forall_mem_nil _)
  induction m with
  | done a => exact fun fs hfs => hfs
  | ask q next ih =>
    intro fs hfs
    refine ih _ (hruns.2 _) _ ?_
    cases q with
    | fetch r =>
      intro x hx
      rcases List.mem_append.1 hx with hx | hx
      · exact hfs x hx
      · rw [List.mem_singleton.1 hx]
        exact hruns.1
    | _ => exact hfs

theorem leads_sends (h : Asks Question.Sends m) :
    Leads (looking g look (Answering network)) m (· = outcome network m) (sent network m) := by
  have hruns := h.runs
  clear h
  suffices hfrom : ∀ before fs, m.Ensures (looking g look (Answering network)) (before ++ fs) fun a after =>
      a = (m.run (sending network) fs).1 ∧ after = before ++ (m.run (sending network) fs).2 from fun before => by
    have h := hfrom before []
    rwa [List.append_nil] at h
  induction m with
  | done a => exact fun before fs => ensures_pure.2 ⟨rfl, rfl⟩
  | ask q next ih =>
    intro before fs
    refine ensures_ask.2 fun a after ha => ?_
    cases q with
    | fetch r =>
      obtain ⟨rfl, rfl⟩ := ha
      rw [List.append_assoc]
      exact ih _ (hruns.2 _) before _
    | log record =>
      obtain rfl := ha
      exact ih _ (hruns.2 _) before _
    | _ => exact hruns.1.elim

end EdgeWorker.Host
