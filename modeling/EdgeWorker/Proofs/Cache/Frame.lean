import EdgeWorker.Proofs.Cache.Persistent

/-!
Which keys of a store an operation on generations may change, whatever the store answers.

* `Within K m` — `m` changes no keys but those in `K`; one lemma for each of the steps that operations are made of;
* `Operation.Touches` — the keys of each operation (`perform_within`);
* `KeepsOthers` — what an operation on one generation makes of the list of generations (`perform_keepsOthers`).
-/

namespace EdgeWorker.Cache

open EdgeWorker.Action

namespace KeyValue

variable {c c' : Contents} {t : List Exchange} {key : String} {K : String → Prop} {α β : Type}

/-- Whatever the store answers, no keys are to be changed but those in `K`. -/
def Within (K : String → Prop) (m : Steps α) : Prop := m.Runs (fun q => ∀ key, q.Changes key → K key) fun _ => True

theorem within_done (a : α) : Within K (.done a : Steps α) := trivial

theorem within_bind {m : Steps α} {f : α → Steps β} (hm : Within K m) (hf : ∀ a, Within K (f a)) :
    Within K (m >>= f) := Runs.bind hm fun a _ => hf a

theorem within_attempt {x : Attempt α} {f : α → Attempt β} (hx : Within K x.run) (hf : ∀ a, Within K (f a).run) :
    Within K (x >>= f).run := Runs.attempt hx (fun a _ => hf a) fun _ _ => trivial

theorem within_get (key : String) : Within K (get key).run := ⟨nofun, fun _ => trivial⟩

theorem within_set {value : Bytes} (hk : K key) : Within K (set key value).run :=
  ⟨fun _ he => he ▸ hk, fun _ => trivial⟩

theorem within_delete (hk : K key) : Within K (delete key).run := ⟨fun _ he => he ▸ hk, fun _ => trivial⟩

theorem within_report (key : String) (e : Error) : Within K (Action.question (Question.report key e)) :=
  ⟨nofun, fun _ => trivial⟩

/-- A key outside of `K` keeps its value. -/
theorem Trial.eq_of_within {m : Steps α} {r : α} (h : Trial c m t r c') (hm : Within K m) (hk : ¬ K key) :
    c' key = c key :=
  h.follows.eq_of_not_changes fun x hx hc => hk (hm.exchanges h.ends x hx key hc)

theorem restore_within {previous : List (String × Option Bytes)} (hp : ∀ p ∈ previous, K p.1) :
    Within K (restore previous) := by
  induction previous with
  | nil => trivial
  | cons p previous ih =>
    obtain ⟨key, old⟩ := p
    have hk : K key := hp _ List.mem_cons_self
    have hrest := ih fun q hq => hp q (List.mem_cons_of_mem _ hq)
    have hback : Within K (takeBack key old).run := by
      cases old with
      | some value => exact within_set hk
      | none => exact within_delete hk
    rw [restore_cons]
    refine within_bind hback fun result => ?_
    cases result with
    | error e => exact within_bind (within_report key e) fun _ => hrest
    | ok => exact hrest

theorem setFrom_within {previous : List (String × Option Bytes)} {pairs : List (String × Bytes)}
    (hp : ∀ p ∈ previous, K p.1) (hpairs : ∀ p ∈ pairs, K p.1) : Within K (setFrom previous pairs) := by
  induction pairs generalizing previous with
  | nil => trivial
  | cons p pairs ih =>
    obtain ⟨key, value⟩ := p
    have hk : K key := hpairs _ List.mem_cons_self
    refine within_bind (within_get key) fun old => ?_
    cases old with
    | error e => exact within_bind (restore_within hp) fun _ => within_done _
    | ok old =>
      have hp' : ∀ p ∈ (key, old) :: previous, K p.1 := by
        intro p hp'
        rcases List.mem_cons.1 hp' with rfl | hp'
        · exact hk
        · exact hp p hp'
      refine within_bind (within_set hk) fun result => ?_
      cases result with
      | error e => exact within_bind (restore_within hp') fun _ => within_done _
      | ok => exact ih hp' fun p hp => hpairs p (List.mem_cons_of_mem _ hp)

theorem setAll_within {pairs : List (String × Bytes)} (hpairs : ∀ p ∈ pairs, K p.1) : Within K (setAll pairs).run :=
  setFrom_within nofun hpairs

end KeyValue

open KeyValue

/-- The keys that an operation may change. -/
def Operation.Touches (key : String) : Operation → Prop
  | .generations => False
  | .openGeneration _ => key = Persistent.generationsKey
  | .deleteGeneration g => key = Persistent.generationsKey ∨ Persistent.Owns g key
  | .get _ _ => False
  | .put g url _ =>
    key = Persistent.generationsKey ∨ key = Persistent.indexKey g ∨ key = Persistent.entryKey g url
  | .putAll g entries => key = Persistent.generationsKey ∨ key = Persistent.indexKey g ∨
    ∃ url ∈ entries.map Prod.fst, key = Persistent.entryKey g url
  | .urls _ => False

namespace Persistent

variable {c c' : Contents} {t : List Exchange} {g h key : String} {K : String → Prop} {entries : List (String × Entry)}

theorem readList_within (key : String) : Within K (readList key).run := by
  rw [readList_eq]
  exact within_attempt (within_get key) fun old => within_done _

theorem openGeneration_within (hk : K generationsKey) : Within K (openGeneration g).run := by
  rw [openGeneration_eq]
  refine within_attempt (readList_within _) fun names => ?_
  split
  · exact within_done _
  · exact within_set hk

theorem deleteEntries_within {urls : List String} (hk : ∀ url ∈ urls, K (entryKey g url)) :
    Within K (deleteEntries g urls).run := by
  induction urls with
  | nil => trivial
  | cons url urls ih =>
    exact within_attempt (within_delete (hk url List.mem_cons_self)) fun _ =>
      ih fun u hu => hk u (List.mem_cons_of_mem _ hu)

theorem deleteGeneration_within (hk : K generationsKey) (ho : ∀ key, Owns g key → K key) :
    Within K (deleteGeneration g).run := by
  rw [deleteGeneration_eq]
  refine within_attempt (readList_within _) fun names => ?_
  split
  · refine within_attempt (readList_within _) fun urls => ?_
    refine within_attempt (deleteEntries_within fun url _ => ho _ (.inr ⟨url, rfl⟩)) fun _ => ?_
    refine within_attempt (within_delete (ho _ (.inl rfl))) fun _ => ?_
    exact within_attempt (within_set hk) fun _ => within_done _
  · exact within_done _

theorem publish_within (hk : K generationsKey) (hi : K (indexKey g)) : Within K (publish g entries).run := by
  refine within_attempt (openGeneration_within hk) fun _ => ?_
  exact within_attempt (readList_within _) fun urls => within_set hi

theorem putAll_within (hk : K generationsKey) (hi : K (indexKey g))
    (he : ∀ url ∈ entries.map Prod.fst, K (entryKey g url)) : Within K (putAll g entries).run := by
  have htexts : ∀ p ∈ texts g entries, K p.1 := by
    intro p hp
    obtain ⟨e, hmem, rfl⟩ := List.mem_map.1 hp
    exact he e.1 (List.mem_map_of_mem hmem)
  rw [putAll_eq]
  exact within_attempt (setAll_within htexts) fun _ => publish_within hk hi

/-- An operation changes no keys but its own. -/
theorem perform_within (op : Operation) : Within (fun key => op.Touches key) (perform op) := by
  cases op with
  | generations => exact readList_within _
  | openGeneration g => exact openGeneration_within rfl
  | deleteGeneration g => exact deleteGeneration_within (.inl rfl) fun key ho => .inr ho
  | get g url =>
    show Within _ (getEntry g url).run
    rw [getEntry_eq]
    exact within_attempt (within_get _) fun old => within_done _
  | put g url entry =>
    refine putAll_within (.inl rfl) (.inr (.inl rfl)) fun u hu => ?_
    exact .inr (.inr (congrArg (entryKey g) (List.mem_singleton.1 hu)))
  | putAll g entries => exact putAll_within (.inl rfl) (.inr (.inl rfl)) fun url hu => .inr (.inr ⟨url, hu, rfl⟩)
  | urls g => exact within_attempt (readList_within _) fun urls => within_done _

/-- The keys of an operation on a generation are those of the generation, and the list of generations. -/
theorem owns_of_touches {op : Operation} (hop : op.generation? = some g) (ht : op.Touches key) :
    key = generationsKey ∨ Owns g key := by
  cases op <;> simp only [Operation.generation?, Option.some.injEq, reduceCtorEq] at hop <;> subst hop
  · exact .inl ht
  · exact ht
  · exact ht.elim
  · exact ht.imp_right fun ho => ho.imp_right fun he => ⟨_, he⟩
  · exact ht.imp_right fun ho => ho.imp_right fun ⟨url, _, he⟩ => ⟨url, he⟩
  · exact ht.elim

/-! ### The list of generations -/

/-- The list of generations is the same, or it is a new one that has the same names but for one. -/
def KeepsOthers (g : String) (old new : Option Bytes) : Prop :=
  new = old ∨ ∃ names names', listOf old = .ok names ∧ new = some (listText names') ∧
    ∀ h, h ≠ g → (h ∈ names' ↔ h ∈ names)

/-- Steps on the keys of a generation leave the list of generations alone. -/
theorem generationsKey_of_owned {α : Type} {m : Steps α} {r : α} (h : Trial c m t r c') (hm : Within (Owns g) m) :
    c' generationsKey = c generationsKey := h.eq_of_within hm fun ho => ho.ne_generationsKey rfl

theorem openGeneration_keepsOthers {r : Except Error Unit} (h : Trial c (openGeneration g).run t r c') :
    KeepsOthers g (c generationsKey) (c' generationsKey) := by
  obtain ⟨names, hl, rfl⟩ | ⟨rfl, -⟩ := openGeneration_trial h
  · unfold opened
    split
    · exact .inl rfl
    · refine .inr ⟨names, names ++ [g], hl, Function.update_self .., fun h hne => ?_⟩
      rw [List.mem_append, List.mem_singleton, or_iff_left hne]
  · exact .inl rfl

/-- Behind steps on the keys of a generation the list of generations is what it was before them. -/
theorem keepsOthers_behind {α β : Type} {x : Attempt α} {f : α → Attempt β} {r : Except Error β}
    (h : Trial c (x >>= f).run t r c') (hx : Within (Owns g) x.run)
    (hf : ∀ a d t, d generationsKey = c generationsKey → Trial d (f a).run t r c' →
      KeepsOthers g (c generationsKey) (c' generationsKey)) :
    KeepsOthers g (c generationsKey) (c' generationsKey) := by
  rcases trial_attempt.1 h with ⟨t₁, t₂, a, d, -, h₁, h₂⟩ | ⟨e, h₁, -⟩
  · exact hf a d t₂ (generationsKey_of_owned h₁ hx) h₂
  · exact .inl (generationsKey_of_owned h₁ hx)

theorem putAll_keepsOthers {r : Except Error Unit} (h : Trial c (putAll g entries).run t r c') :
    KeepsOthers g (c generationsKey) (c' generationsKey) := by
  have hset : Within (Owns g) (setAll (texts g entries)).run := setAll_within fun p hp => .inr (fst_mem_texts hp)
  have hlist : Within (Owns g) (readList (indexKey g) >>= fun urls =>
      writeList (indexKey g) (listed urls entries)).run :=
    within_attempt (readList_within _) fun urls => within_set (.inl rfl)
  rw [putAll_eq] at h
  refine keepsOthers_behind h hset fun _ d t hd h => ?_
  rw [← hd]
  rcases trial_attempt.1 h with ⟨t₁, t₂, _, d', -, h₁, h₂⟩ | ⟨e, h₁, -⟩
  · rw [generationsKey_of_owned h₂ hlist]
    exact openGeneration_keepsOthers h₁
  · exact openGeneration_keepsOthers h₁

theorem deleteGeneration_keepsOthers {r : Except Error Bool} (h : Trial c (deleteGeneration g).run t r c') :
    KeepsOthers g (c generationsKey) (c' generationsKey) := by
  rw [deleteGeneration_eq, trial_attempt] at h
  rcases h with ⟨t₁, t₂, names, d, -, h₁, h₂⟩ | ⟨e, h₁, -⟩
  · obtain ⟨rfl, hnames⟩ := readList_trial h₁
    have hl := hnames names rfl
    split at h₂
    · -- between the reading of the names and the writing of the names stand steps on the keys of the generation
      refine keepsOthers_behind h₂ (readList_within _) fun urls d₁ t hd₁ h₃ => ?_
      rw [← hd₁] at hl ⊢
      refine keepsOthers_behind h₃ (deleteEntries_within fun url _ => .inr ⟨url, rfl⟩) fun _ d₂ t hd₂ h₄ => ?_
      rw [← hd₂] at hl ⊢
      refine keepsOthers_behind h₄ (within_delete (.inl rfl)) fun _ d₃ t hd₃ h₅ => ?_
      rw [← hd₃] at hl ⊢
      have hwrite {t r} (h₆ : Trial d₃ (writeList generationsKey (names.filter (· ≠ g))).run t r c') :
          KeepsOthers g (d₃ generationsKey) (c' generationsKey) := by
        obtain rfl | ⟨rfl, -⟩ := writeList_trial h₆
        · refine .inr ⟨names, _, hl, Function.update_self .., fun h hne => ?_⟩
          rw [List.mem_filter]
          exact and_iff_left (decide_eq_true hne)
        · exact .inl rfl
      rcases trial_attempt.1 h₅ with ⟨t₅, t₆, _, d₄, -, h₆, h₇⟩ | ⟨e, h₆, -⟩
      · obtain ⟨-, -, rfl⟩ := trial_done.1 h₇
        exact hwrite h₆
      · exact hwrite h₆
    · obtain ⟨-, -, rfl⟩ := trial_done.1 h₂
      exact .inl rfl
  · rw [(readList_trial h₁).1]
    exact .inl rfl

/-- No operation on a generation adds or drops the name of another one. -/
theorem perform_keepsOthers {op : Operation} {r : op.Answer} (hop : op.generation? = some g)
    (h : Trial c (perform op) t r c') : KeepsOthers g (c generationsKey) (c' generationsKey) := by
  have hsame (ht : ¬ op.Touches generationsKey) : KeepsOthers g (c generationsKey) (c' generationsKey) :=
    .inl (h.eq_of_within (perform_within op) ht)
  cases op with
  | generations => cases hop
  | openGeneration _ => cases hop; exact openGeneration_keepsOthers h
  | deleteGeneration _ => cases hop; exact deleteGeneration_keepsOthers h
  | get _ _ => exact hsame id
  | put _ _ _ => cases hop; exact putAll_keepsOthers h
  | putAll _ _ => cases hop; exact putAll_keepsOthers h
  | urls _ => exact hsame id

end Persistent
end EdgeWorker.Cache
