import EdgeWorker.Proofs.Cache.Isolation

/-!
Deleting a generation with a store that may fail.

* `Remains` — what an attempt leaves (`deleteGeneration_trial`): the first so many of the keys of the generation are gone,
  or all of them, and its name with them;
* `Sound` — the lists can be read, what is stored is listed in its generation, and a generation that has a list is listed
  itself; deletions keep it that way whatever fails (`Sound.deletion`), other operations where nothing fails
  (`Sound.after`);
* `deleteGeneration_retried` — so a deletion that failed can be made up for at any later time.
-/

namespace EdgeWorker.Cache.Persistent

open EdgeWorker.Action KeyValue

variable {c c' d : Contents} {t : List Exchange} {g key url : String} {names urls : List String}
  {entries : List (String × Entry)}

/-! ### Attempts -/

/-- The entries are deleted one after another, up to the first one at which the store fails. -/
theorem deleteEntries_trial {r : Except Error Unit} (h : Trial c (deleteEntries g urls).run t r c') :
    r = .ok () ∧ c' = c.deleteAll (urls.map (entryKey g)) ∨
      (∃ e, r = .error e) ∧ ∃ k ≤ urls.length, c' = c.deleteAll ((urls.map (entryKey g)).take k) := by
  induction urls generalizing c t with
  | nil =>
    obtain ⟨-, rfl, rfl⟩ := trial_done.1 h
    exact .inl ⟨rfl, rfl⟩
  | cons url urls ih =>
    rw [deleteEntries] at h
    rcases trial_attempt.1 h with ⟨t₁, t₂, ⟨⟩, d, -, h₁, h₂⟩ | ⟨e, h₁, rfl⟩
    · obtain rfl : d = Function.update c (entryKey g url) none := (trial_question.1 h₁).2
      rcases ih h₂ with ⟨rfl, rfl⟩ | ⟨herror, k, hk, rfl⟩
      · exact .inl ⟨rfl, rfl⟩
      · exact .inr ⟨herror, k + 1, Nat.succ_le_succ hk, rfl⟩
    · refine .inr ⟨⟨e, rfl⟩, ?_⟩
      -- the key at which the store failed may be gone or not
      obtain rfl | rfl := (trial_question.1 h₁).2
      · exact ⟨0, Nat.zero_le _, rfl⟩
      · exact ⟨1, Nat.succ_le_succ (Nat.zero_le _), rfl⟩

/-- The keys of a generation with these addresses, in the order in which they are deleted: the list of the addresses comes
last. -/
def keysOf (g : String) (urls : List String) : List String := urls.map (entryKey g) ++ [indexKey g]

/-- What an attempt to delete a generation ends in, and what it leaves. -/
inductive Remains (c : Contents) (g : String) : Except Error Bool → Contents → Prop
  /-- A list could not be read. -/
  | unread (e : Error) : Remains c g (.error e) c
  | absent {names : List String} : listOf (c generationsKey) = .ok names → g ∉ names → Remains c g (.ok false) c
  /-- The store failed when the first `k` keys were gone. -/
  | cut {urls : List String} (e : Error) (k : Nat) : listOf (c (indexKey g)) = .ok urls →
    Remains c g (.error e) (c.deleteAll ((keysOf g urls).take k))
  /-- Everything is gone, though the store may have failed to say so. -/
  | gone {names urls : List String} {r : Except Error Bool} : listOf (c generationsKey) = .ok names → g ∈ names →
    listOf (c (indexKey g)) = .ok urls → r ≠ .ok false → Remains c g r (deleted c names urls g)

/-- Behind the entries there are two more steps: the list of addresses is deleted, and the name is taken out. -/
theorem remains_behind {r : Except Error Bool} (hl : listOf (c generationsKey) = .ok names) (hg : g ∈ names)
    (hu : listOf (c (indexKey g)) = .ok urls)
    (h : Trial (c.deleteAll (urls.map (entryKey g))) (delete (indexKey g) >>= fun _ =>
      writeList generationsKey (names.filter (· ≠ g)) >>= fun _ => pure true).run t r c') : Remains c g r c' := by
  have hcut (e : Error) : Remains c g (.error e) (c.deleteAll (keysOf g urls)) := by
    have hk := Remains.cut (c := c) (g := g) e (keysOf g urls).length hu
    rwa [List.take_length] at hk
  have hupdate : Function.update (c.deleteAll (urls.map (entryKey g))) (indexKey g) none = c.deleteAll (keysOf g urls) :=
    (c.deleteAll_append (urls.map (entryKey g)) [indexKey g]).symm
  have hwrite {t r} (h : Trial (c.deleteAll (keysOf g urls))
      (writeList generationsKey (names.filter (· ≠ g))).run t r c') :
      c' = deleted c names urls g ∨ c' = c.deleteAll (keysOf g urls) ∧ ∃ e, r = .error e := writeList_trial h
  rcases trial_attempt.1 h with ⟨t₁, t₂, ⟨⟩, d, -, h₁, h₂⟩ | ⟨e, h₁, rfl⟩
  · have hd : d = Function.update (c.deleteAll (urls.map (entryKey g))) (indexKey g) none := (trial_question.1 h₁).2
    rw [hupdate] at hd
    subst hd
    rcases trial_attempt.1 h₂ with ⟨t₃, t₄, ⟨⟩, d, -, h₃, h₄⟩ | ⟨e, h₃, rfl⟩
    · obtain ⟨-, rfl, rfl⟩ := trial_done.1 h₄
      obtain rfl | ⟨-, e, he⟩ := hwrite h₃
      · exact .gone hl hg hu nofun
      · cases he
    · obtain rfl | ⟨rfl, -⟩ := hwrite h₃
      · exact .gone hl hg hu nofun
      · exact hcut e
  · obtain rfl | rfl := (trial_question.1 h₁).2
    · have hk := Remains.cut (c := c) (g := g) e (urls.map (entryKey g)).length hu
      rwa [keysOf, List.take_left] at hk
    · rw [hupdate]
      exact hcut e

/-- **What an attempt to delete a generation leaves**, wherever the store failed, and whether the step at which it failed
was made or not. -/
theorem deleteGeneration_trial {r : Except Error Bool} (h : Trial c (deleteGeneration g).run t r c') : Remains c g r c' := by
  rw [deleteGeneration_eq, trial_attempt] at h
  rcases h with ⟨t₁, t₂, names, d, -, h₁, h₂⟩ | ⟨e, h₁, rfl⟩
  · obtain ⟨rfl, hnames⟩ := readList_trial h₁
    have hl := hnames names rfl
    by_cases hg : g ∈ names
    · rw [if_pos hg] at h₂
      rcases trial_attempt.1 h₂ with ⟨t₃, t₄, urls, d', -, h₃, h₄⟩ | ⟨e, h₃, rfl⟩
      · obtain ⟨rfl, hurls⟩ := readList_trial h₃
        have hu := hurls urls rfl
        rcases trial_attempt.1 h₄ with ⟨t₅, t₆, ⟨⟩, d₁, -, h₅, h₆⟩ | ⟨e, h₅, rfl⟩
        · obtain ⟨-, rfl⟩ | ⟨⟨e, he⟩, -⟩ := deleteEntries_trial h₅
          · exact remains_behind hl hg hu h₆
          · cases he
        · obtain ⟨he, -⟩ | ⟨-, k, hk, rfl⟩ := deleteEntries_trial h₅
          · cases he
          · have hcut := Remains.cut (c := d') (g := g) e k hu
            rwa [keysOf, List.take_append_of_le_length (by rwa [List.length_map])] at hcut
      · rw [(readList_trial h₃).1]
        exact .unread e
    · rw [if_neg hg] at h₂
      obtain ⟨-, rfl, rfl⟩ := trial_done.1 h₂
      exact .absent hl hg
  · rw [(readList_trial h₁).1]
    exact .unread e

/-! ### What deletions keep -/

/-- All that is kept of a generation can be found: the list of its addresses can be read, what is stored is in it, and if
there is such a list, the generation is listed itself. -/
structure Traced (g : String) (c : Contents) : Prop where
  urls : ∃ urls, listOf (c (indexKey g)) = .ok urls
  listed : ∀ url, IsStored g c url → IsUrl g c url
  named : c (indexKey g) ≠ none → IsListed g c

/-- The list of generations can be read, and all that is kept of generations whose names have no colon can be found. -/
structure Sound (c : Contents) : Prop where
  names : ∃ names, listOf (c generationsKey) = .ok names
  traced : ∀ g, Unmarked g → Traced g c

theorem traced_of_forall_none (h : ∀ key, Owns g key → c key = none) : Traced g c where
  urls := ⟨[], by rw [h _ (.inl rfl), listOf_none]⟩
  listed url hs := absurd (h _ (.inr ⟨url, rfl⟩)) (isStored_iff.1 hs)
  named hne := absurd (h _ (.inl rfl)) hne

theorem sound_empty : Sound fun _ => none := ⟨⟨[], rfl⟩, fun _ _ => traced_of_forall_none fun _ _ => rfl⟩

/-- What is kept of a generation is found as before where its keys and its being listed are as before. -/
theorem Traced.congr (hc : Traced g c) (hkeys : ∀ key, Owns g key → c' key = c key) (hlisted : IsListed g c → IsListed g c') :
    Traced g c' := by
  have hindex : c' (indexKey g) = c (indexKey g) := hkeys _ (.inl rfl)
  refine ⟨hindex ▸ hc.urls, fun url hs => ?_, fun hne => hlisted (hc.named (hindex ▸ hne))⟩
  rw [isStored_iff, hkeys _ (.inr ⟨url, rfl⟩), ← isStored_iff] at hs
  rw [isUrl_iff, hindex, ← isUrl_iff]
  exact hc.listed url hs

/-- What is stored has its address in the list. -/
theorem Traced.mem_urls (hc : Traced g c) (hu : listOf (c (indexKey g)) = .ok urls) (hs : IsStored g c url) : url ∈ urls := by
  obtain ⟨urls', hu', hmem⟩ := isUrl_iff.1 (hc.listed url hs)
  rw [hu, Except.ok.injEq] at hu'
  exact hu' ▸ hmem

/-- Of a generation that is not listed nothing is kept. -/
theorem Traced.eq_none (hc : Traced g c) (hg : ¬ IsListed g c) (ho : Owns g key) : c key = none := by
  have hindex : c (indexKey g) = none := not_not.1 fun hne => hg (hc.named hne)
  rcases ho with rfl | ⟨url, rfl⟩
  · exact hindex
  · by_contra hs
    exact List.not_mem_nil (hc.mem_urls (by rw [hindex, listOf_none]) (isStored_iff.2 hs))

/-- Nothing is kept of a generation, and it is not listed. -/
def Gone (g : String) (c : Contents) : Prop :=
  (∀ key, Owns g key → c key = none) ∧ ∃ names, answerOf c .generations = .ok names ∧ g ∉ names

/-- Where all that was kept can be found, a deletion of everything leaves nothing. -/
theorem Traced.gone_deleted (hc : Traced g c) (names : List String) (hu : listOf (c (indexKey g)) = .ok urls) :
    Gone g (deleted c names urls g) := by
  refine ⟨fun key ho => ?_, names.filter (· ≠ g), ?_, by simp⟩
  · rcases ho with rfl | ⟨url, rfl⟩
    · exact deleted_indexKey
    · rw [deleted_entryKey]
      split
      · rfl
      · next hno =>
        by_contra hs
        exact hno (hc.mem_urls hu (isStored_iff.2 hs))
  · rw [answerOf_generations, deleted_generationsKey, listOf_listText]

/-- Where the list of the addresses is among the keys that are gone, all others are. -/
theorem take_keysOf {k : Nat} (h : indexKey g ∈ (keysOf g urls).take k) : (keysOf g urls).take k = keysOf g urls := by
  by_cases hk : k ≤ urls.length
  · rw [keysOf, List.take_append_of_le_length (by rwa [List.length_map])] at h
    obtain ⟨url, -, he⟩ := List.mem_map.1 (List.mem_of_mem_take h)
    exact absurd he (entryKey_ne_indexKey_self g url)
  · refine List.take_of_length_le ?_
    rw [keysOf, List.length_append, List.length_map, List.length_singleton]
    omega

/-- **The list of the addresses goes last**, so wherever the deletion stops, what is still stored is still listed. -/
theorem Traced.cut (hc : Traced g c) (hu : listOf (c (indexKey g)) = .ok urls) (k : Nat) :
    Traced g (c.deleteAll ((keysOf g urls).take k)) := by
  have hname : c.deleteAll ((keysOf g urls).take k) generationsKey = c generationsKey := by
    refine (c.deleteAll_apply _ _).trans (if_neg fun hmem => ?_)
    rcases List.mem_append.1 (List.mem_of_mem_take hmem) with hmem | hmem
    · obtain ⟨url, -, he⟩ := List.mem_map.1 hmem
      exact entryKey_ne_generationsKey g url he
    · exact indexKey_ne_generationsKey g (List.mem_singleton.1 hmem).symm
  by_cases hindex : indexKey g ∈ (keysOf g urls).take k
  · -- nothing is left but perhaps the name
    refine traced_of_forall_none fun key ho => ?_
    have hgone := (hc.gone_deleted [] hu).1 key ho
    rwa [deleted, Function.update_of_ne ho.ne_generationsKey, ← keysOf, ← take_keysOf hindex] at hgone
  · have hsame : c.deleteAll ((keysOf g urls).take k) (indexKey g) = c (indexKey g) :=
      (c.deleteAll_apply _ _).trans (if_neg hindex)
    refine ⟨⟨urls, hsame ▸ hu⟩, fun url hs => ?_, fun hne => ?_⟩
    · rw [isStored_iff, Contents.deleteAll_apply] at hs
      rw [isUrl_iff, hsame, ← isUrl_iff]
      exact hc.listed url (isStored_iff.2 fun he => hs (by split <;> simp [he]))
    · rw [isListed_iff, hname, ← isListed_iff]
      exact hc.named (hsame ▸ hne)

theorem Traced.remains {r : Except Error Bool} (hc : Traced g c) (h : Remains c g r c') : Traced g c' := by
  cases h with
  | unread e => exact hc
  | absent hl hg => exact hc
  | cut e k hu => exact hc.cut hu k
  | gone hl hg hu hr => exact traced_of_forall_none (hc.gone_deleted _ hu).1

/-- Operations on a generation leave the others as they were, so only that one is to be looked at. -/
theorem Sound.of_trial {op : Operation} {r : op.Answer} (hc : Sound c) (hop : op.generation? = some g) (hg : Unmarked g)
    (h : Trial c (perform op) t r c') (hself : Traced g c') : Sound c' := by
  have hkeeps := perform_keepsOthers hop h
  refine ⟨?_, fun k hk => ?_⟩
  · obtain he | ⟨names, names', -, he, -⟩ := hkeeps
    · exact he ▸ hc.names
    · exact ⟨names', by rw [he, listOf_listText]⟩
  · by_cases hne : k = g
    · exact hne ▸ hself
    · exact (hc.traced k hk).congr (fun key ho => eq_of_apart (apart_of_unmarked hg hk (Ne.symm hne)) hop h ho)
        (isListed_of_keepsOthers hne hkeeps).2

/-- Deletions keep what can be found, whatever fails. -/
theorem Sound.deletion {r : Except Error Bool} (hc : Sound c) (hg : Unmarked g)
    (h : Trial c (perform (.deleteGeneration g)) t r c') : Sound c' :=
  hc.of_trial rfl hg h ((hc.traced g hg).remains (deleteGeneration_trial h))

theorem isListed_opened (hl : listOf (c generationsKey) = .ok names) : IsListed g (opened c names g) := by
  rw [isListed_iff, opened]
  split
  · next hg => exact ⟨names, hl, hg⟩
  · exact ⟨_, by rw [Function.update_self, listOf_listText], by simp⟩

theorem Traced.opened (hc : Traced g c) (hl : listOf (c generationsKey) = .ok names) : Traced g (opened c names g) :=
  hc.congr (fun _ ho => opened_of_ne ho.ne_generationsKey) fun _ => isListed_opened hl

theorem Traced.filled (hc : Traced g c) (hl : listOf (c generationsKey) = .ok names)
    (hu : listOf (c (indexKey g)) = .ok urls) (entries : List (String × Entry)) :
    Traced g (filled c names urls g entries) := by
  refine ⟨⟨_, by rw [filled_indexKey, listOf_listText]⟩, fun url hs => ?_, fun _ => ?_⟩
  · rw [isUrl_iff, filled_indexKey]
    refine ⟨_, listOf_listText _, mem_listed.2 ?_⟩
    rw [isStored_iff, filled_entryKey] at hs
    by_cases hurl : url ∈ entries.map Prod.fst
    · exact .inr hurl
    · rw [setAll_texts, Keyed.get?_ofList_eq_none hurl, Option.elim_none, ← isStored_iff] at hs
      exact .inl (hc.mem_urls hu hs)
  · rw [isListed_iff, filled_generationsKey, ← isListed_iff]
    exact isListed_opened hl

/-- An operation that meets no failure leaves what it is about so that it can be found. -/
theorem Traced.after (hc : Traced g c) (hnames : ∃ names, listOf (c generationsKey) = .ok names) {op : Operation}
    (hop : op.generation? = some g) : Traced g (after c op) := by
  obtain ⟨names, hl⟩ := hnames
  obtain ⟨urls, hu⟩ := hc.urls
  have hput (entries : List (String × Entry)) : Traced g (Persistent.after c (.putAll g entries)) := by
    have hrun : Persistent.after c (.putAll g entries) = _ := congrArg Prod.snd (run_putAll hl hu entries)
    exact hrun ▸ hc.filled hl hu entries
  cases op <;> simp only [Operation.generation?, Option.some.injEq, reduceCtorEq] at hop <;> subst hop
  case openGeneration g =>
    have hrun : Persistent.after c (.openGeneration g) = _ := congrArg Prod.snd (run_openGeneration hl)
    exact hrun ▸ hc.opened hl
  case deleteGeneration g => exact hc.remains (deleteGeneration_trial (trial_after c (.deleteGeneration g)))
  case get g url =>
    have hrun : Persistent.after c (.get g url) = c := congrArg Prod.snd (run_getEntry g url c)
    exact hrun.symm ▸ hc
  case put g url entry => exact hput [(url, entry)]
  case putAll g entries => exact hput entries
  case urls g =>
    have hrun : Persistent.after c (.urls g) = c := congrArg Prod.snd (run_urls g c)
    exact hrun.symm ▸ hc

/-- Operations that meet no failure keep what can be found. -/
theorem Sound.after (hc : Sound c) {op : Operation} (hop : ∀ g ∈ op.generation?, Unmarked g) : Sound (after c op) := by
  cases hgen : op.generation? with
  | none =>
    have hrun : Persistent.after c op = c := by
      cases op <;> cases hgen
      exact congrArg Prod.snd (run_readList generationsKey c)
    exact hrun.symm ▸ hc
  | some g =>
    have hg := hop g hgen
    exact hc.of_trial hgen hg (trial_after c op) ((hc.traced g hg).after hc.names hgen)

/-! ### Later deletions -/

/-- What a store may hold later on: generations were deleted, whether that failed or not, and other operations met no
failure. -/
inductive Later (c : Contents) : Contents → Prop
  | now : Later c c
  | deletion {d d' : Contents} {g : String} {t : List Exchange} {r : Except Error Bool} :
    Later c d → Unmarked g → Trial d (perform (.deleteGeneration g)) t r d' → Later c d'
  | operation {d : Contents} {op : Operation} : Later c d → (∀ g ∈ op.generation?, Unmarked g) → Later c (after d op)

theorem Sound.later (hc : Sound c) (h : Later c d) : Sound d := by
  induction h with
  | now => exact hc
  | deletion _ hg h ih => exact ih.deletion hg h
  | operation _ hop ih => exact ih.after hop

/-- Where nothing fails, a deletion says whether there was something to delete. -/
theorem Sound.answerOf_deleteGeneration (hc : Sound c) (hg : Unmarked g) :
    ∃ b, answerOf c (.deleteGeneration g) = .ok b ∧ (b = true ↔ IsListed g c) := by
  obtain ⟨names, hl⟩ := hc.names
  have hlisted : IsListed g c ↔ g ∈ names := by simp [isListed_iff, hl]
  by_cases hmem : g ∈ names
  · obtain ⟨urls, hu⟩ := (hc.traced g hg).urls
    exact ⟨true, congrArg Prod.fst (run_deleteGeneration hl hmem hu), by simp [hlisted, hmem]⟩
  · exact ⟨false, congrArg Prod.fst (run_deleteGeneration_of_not_mem hl hmem), by simp [hlisted, hmem]⟩

/-- A deletion that succeeds leaves nothing. -/
theorem Sound.gone {b : Bool} (hc : Sound c) (hg : Unmarked g)
    (h : Trial c (perform (.deleteGeneration g)) t (.ok b) c') : Gone g c' := by
  have hremains : Remains c g (.ok b) c' := deleteGeneration_trial h
  cases hremains with
  | @absent names hl hno =>
    have hlisted : ¬ IsListed g c := by simp [isListed_iff, hl, hno]
    exact ⟨fun key ho => (hc.traced g hg).eq_none hlisted ho, names, by rw [answerOf_generations, hl], hno⟩
  | gone hl hmem hu hr => exact (hc.traced g hg).gone_deleted _ hu

/-- A deletion that fails, at whatever step and whether this step was made or not, leaves everything to be found that is
still kept, and the other generations as they were. So a later deletion that meets no failure leaves nothing. -/
theorem deleteGeneration_retried {e : Error} (hc : Sound c) (hg : Unmarked g)
    (h : Trial c (perform (.deleteGeneration g)) t (.error e) c') :
    Sound c' ∧
      (∀ k, Unmarked k → k ≠ g → (∀ key, Owns k key → c' key = c key) ∧ (IsListed k c' ↔ IsListed k c)) ∧
      ∀ d, Later c' d → (∃ b, answerOf d (.deleteGeneration g) = .ok b ∧ (b = true ↔ IsListed g d)) ∧
        ∀ t b d', Trial d (perform (.deleteGeneration g)) t (.ok b) d' → Gone g d' := by
  have hc' := hc.deletion hg h
  refine ⟨hc', fun k hk hne => ⟨fun key ho => ?_, ?_⟩, fun d hd => ?_⟩
  · exact eq_of_apart (apart_of_unmarked hg hk (Ne.symm hne)) rfl h ho
  · exact isListed_of_keepsOthers hne (perform_keepsOthers rfl h)
  · have hsound := hc'.later hd
    exact ⟨hsound.answerOf_deleteGeneration hg, fun t b d' hagain => hsound.gone hg hagain⟩

def twoEntries : Contents := after (fun _ => none) (.putAll "v1" [("a", .of 200 [] .epoch), ("b", .of 404 [] .epoch)])

theorem twoEntries_eq :
    twoEntries = filled (fun _ => none) [] [] "v1" [("a", .of 200 [] .epoch), ("b", .of 404 [] .epoch)] :=
  congrArg Prod.snd (run_putAll rfl rfl _)

theorem sound_twoEntries : Sound twoEntries := sound_empty.after fun _ hg => Option.some.inj hg ▸ by decide

/-- It deletes both entries, and reports a failure for the second one. -/
def brokenOff : List Exchange :=
  [⟨.get generationsKey, .ok (twoEntries generationsKey)⟩, ⟨.get (indexKey "v1"), .ok (twoEntries (indexKey "v1"))⟩,
    ⟨.delete (entryKey "v1" "a"), .ok ()⟩, ⟨.delete (entryKey "v1" "b"), .error (.storage "lost")⟩]

theorem trial_brokenOff : Trial twoEntries (perform (.deleteGeneration "v1")) brokenOff (.error (.storage "lost"))
    (twoEntries.deleteAll [entryKey "v1" "a", entryKey "v1" "b"]) where
  ends := by
    have hnames : listOf (twoEntries generationsKey) = .ok ["v1"] := by
      rw [twoEntries_eq, filled_generationsKey, opened, if_neg List.not_mem_nil, Function.update_self, listOf_listText]
      rfl
    have hurls : listOf (twoEntries (indexKey "v1")) = .ok ["a", "b"] := by
      rw [twoEntries_eq, filled_indexKey, listOf_listText]
      rfl
    rw [perform, attempt, deleteGeneration_eq]
    refine ends_attempt.2 (.inl ⟨[_], _, ["v1"], rfl, readList_ends.2 ⟨_, rfl, hnames.symm⟩, ?_⟩)
    rw [if_pos (List.mem_singleton_self _)]
    refine ends_attempt.2 (.inl ⟨[_], _, ["a", "b"], rfl, readList_ends.2 ⟨_, rfl, hurls.symm⟩, ?_⟩)
    exact ⟨_, _, rfl, _, _, rfl, rfl, rfl⟩
  follows := ⟨_, ⟨rfl, rfl⟩, _, ⟨rfl, rfl⟩, _, rfl, _, .inr rfl, rfl⟩

/-- The generation is deleted again, though none of the entries in its list is there. -/
theorem deleteGeneration_retried_of_brokenOff : ∃ c', Sound twoEntries ∧ Unmarked "v1" ∧
    Trial twoEntries (perform (.deleteGeneration "v1")) brokenOff (.error (.storage "lost")) c' ∧ Sound c' ∧
      c' (entryKey "v1" "b") = none ∧ ∀ t b d, Trial c' (perform (.deleteGeneration "v1")) t (.ok b) d → Gone "v1" d := by
  have hg : Unmarked "v1" := by decide
  obtain ⟨hsound, -, hlater⟩ := deleteGeneration_retried sound_twoEntries hg trial_brokenOff
  refine ⟨_, sound_twoEntries, hg, trial_brokenOff, hsound, ?_, (hlater _ .now).2⟩
  rw [Contents.deleteAll_apply, if_pos (by simp)]

end EdgeWorker.Cache.Persistent
