import EdgeWorker.Proofs.Cache.Contents
import EdgeWorker.Proofs.Cache.Entry
import EdgeWorker.Proofs.Cache.Key
import EdgeWorker.Proofs.Keyed

/-!
The steps by which a storage of generations works on its store of single values.

* `listOf`, `entryOf` — how a stored value is read; what the storage writes is read back (`listOf_listText`,
  `entryOf_json`);
* `opened`, `filled`, `deleted` — what operations make of a store that does not fail (`run_openGeneration`,
  `run_putAll`, `run_deleteGeneration`), key by key;
* `answerOf`, `after` — what an operation is answered by such a store, and what the store holds then;
* `readList_trial`, `writeList_trial`, `openGeneration_trial` — how single steps end with a store that may fail.
-/

namespace EdgeWorker.Cache

open EdgeWorker.Action EdgeWorker.Json KeyValue

/-- The generation that an operation is about. -/
def Operation.generation? : Operation → Option String
  | .generations => none
  | .openGeneration generation => some generation
  | .deleteGeneration generation => some generation
  | .get generation _ => some generation
  | .put generation _ _ => some generation
  | .putAll generation _ => some generation
  | .urls generation => some generation

namespace Persistent

variable {c c' d : Contents} {t : List Exchange} {g h key url : String} {entries : List (String × Entry)}
  {names urls : List String}

/-! ### Reading back -/

def decoded {α : Type} (r : Reader α) (bytes : Bytes) : Except Error α :=
  match r.ofBytes? bytes with
  | some a => .ok a
  | none => .error (.malformed .text)

def listOf : Option Bytes → Except Error (List String)
  | some bytes => decoded (Reader.list Reader.string) bytes
  | none => .ok []

def entryOf : Option Bytes → Except Error (Option Entry)
  | some bytes => (decoded Entry.reader bytes).map some
  | none => .ok none

@[simp] theorem listOf_none : listOf none = .ok [] := rfl

@[simp] theorem listOf_listText (strings : List String) : listOf (some (listText strings)) = .ok strings := by
  simp only [listOf, decoded, ofBytes?_listText]

@[simp] theorem entryOf_none : entryOf none = .ok none := rfl

@[simp] theorem entryOf_json (e : Entry) : entryOf (some (Text.utf8 e.json)) = .ok (some e) := by
  simp only [entryOf, decoded, Entry.ofBytes?_json]
  rfl

theorem decode_eq {α : Type} (r : Reader α) (bytes : Bytes) :
    decode r bytes = ExceptT.mk (.done (decoded r bytes)) := by
  unfold decode decoded
  cases r.ofBytes? bytes <;> rfl

theorem readList_eq (key : String) : readList key = get key >>= fun old => ExceptT.mk (.done (listOf old)) := by
  unfold readList
  congr 1
  funext old
  cases old with
  | none => rfl
  | some bytes => exact decode_eq _ bytes

theorem getEntry_eq (g url : String) :
    getEntry g url = get (entryKey g url) >>= fun old => ExceptT.mk (.done (entryOf old)) := by
  unfold getEntry
  congr 1
  funext old
  cases old with
  | none => rfl
  | some bytes =>
    simp only [decode_eq, entryOf]
    cases decoded Entry.reader bytes <;> rfl

theorem openGeneration_eq (g : String) : openGeneration g = readList generationsKey >>= fun names =>
    if g ∈ names then pure () else writeList generationsKey (names ++ [g]) := by
  unfold openGeneration
  congr 1
  funext names
  by_cases hg : g ∈ names <;> simp [hg]

theorem deleteGeneration_eq (g : String) : deleteGeneration g = readList generationsKey >>= fun names =>
    if g ∈ names then
      readList (indexKey g) >>= fun urls => deleteEntries g urls >>= fun _ => delete (indexKey g) >>= fun _ =>
        writeList generationsKey (names.filter (· ≠ g)) >>= fun _ => pure true
    else pure false := by
  unfold deleteGeneration
  congr 1
  funext names
  by_cases hg : g ∈ names <;> simp [hg]

/-! ### Lists -/

theorem mem_addTo {strings : List String} {s u : String} : u ∈ addTo strings s ↔ u ∈ strings ∨ u = s := by
  unfold addTo
  split
  · next hs => exact ⟨.inl, fun hu => hu.elim id fun he => he ▸ List.contains_iff_mem.1 hs⟩
  · rw [List.mem_append, List.mem_singleton]

/-- The addresses of a generation with those of entries. -/
def listed (urls : List String) (entries : List (String × Entry)) : List String :=
  entries.foldl (fun urls (url, _) => addTo urls url) urls

theorem mem_listed : url ∈ listed urls entries ↔ url ∈ urls ∨ url ∈ entries.map Prod.fst := by
  induction entries generalizing urls with
  | nil => simp [listed]
  | cons e entries ih =>
    rw [show listed urls (e :: entries) = listed (addTo urls e.1) entries from rfl, ih, mem_addTo, List.map_cons,
      List.mem_cons, or_assoc]

def texts (g : String) (entries : List (String × Entry)) : List (String × Bytes) :=
  entries.map fun (url, entry) => (entryKey g url, Text.utf8 entry.json)

/-- Lists entries that were written in their generation. -/
def publish (g : String) (entries : List (String × Entry)) : Attempt Unit := do
  openGeneration g
  let urls ← readList (indexKey g)
  writeList (indexKey g) (listed urls entries)

theorem putAll_eq (g : String) (entries : List (String × Entry)) :
    putAll g entries = setAll (texts g entries) >>= fun _ => publish g entries := rfl

/-! ### Stores that do not fail -/

theorem run_readList (key : String) (c : Contents) :
    (readList key).run.run Contents.answer c = (listOf (c key), c) := by
  rw [readList_eq, run_attempt]
  rfl

theorem run_getEntry (g url : String) (c : Contents) :
    (getEntry g url).run.run Contents.answer c = (entryOf (c (entryKey g url)), c) := by
  rw [getEntry_eq, run_attempt]
  rfl

/-- What a store holds after a generation was opened, given the names it had. -/
def opened (c : Contents) (names : List String) (g : String) : Contents :=
  if g ∈ names then c else Function.update c generationsKey (some (listText (names ++ [g])))

theorem opened_of_ne (hk : key ≠ generationsKey) : opened c names g key = c key := by
  unfold opened
  split
  · rfl
  · exact Function.update_of_ne hk _ _

theorem run_openGeneration (hl : listOf (c generationsKey) = .ok names) :
    (openGeneration g).run.run Contents.answer c = (.ok (), opened c names g) := by
  rw [openGeneration_eq, run_attempt, run_readList, hl]
  unfold opened
  by_cases hg : g ∈ names
  · simp only [if_pos hg]
    rfl
  · simp only [if_neg hg]
    rfl

theorem run_deleteEntries (g : String) (urls : List String) (c : Contents) :
    (deleteEntries g urls).run.run Contents.answer c = (.ok (), c.deleteAll (urls.map (entryKey g))) := by
  induction urls generalizing c with
  | nil => rfl
  | cons url urls ih =>
    rw [deleteEntries, run_attempt]
    exact ih _

theorem run_deleteGeneration_of_not_mem (hl : listOf (c generationsKey) = .ok names) (hg : g ∉ names) :
    (deleteGeneration g).run.run Contents.answer c = (.ok false, c) := by
  rw [deleteGeneration_eq, run_attempt, run_readList, hl]
  simp only [if_neg hg]
  rfl

/-- What a store holds after a generation was deleted, given the names of the generations and its addresses. -/
def deleted (c : Contents) (names urls : List String) (g : String) : Contents :=
  Function.update (c.deleteAll (urls.map (entryKey g) ++ [indexKey g])) generationsKey
    (some (listText (names.filter (· ≠ g))))

theorem run_deleteGeneration (hl : listOf (c generationsKey) = .ok names) (hg : g ∈ names)
    (hu : listOf (c (indexKey g)) = .ok urls) :
    (deleteGeneration g).run.run Contents.answer c = (.ok true, deleted c names urls g) := by
  rw [deleteGeneration_eq, run_attempt, run_readList, hl]
  simp only [if_pos hg]
  rw [run_attempt, run_readList, hu]
  simp only []
  rw [run_attempt, run_deleteEntries, deleted, Contents.deleteAll_append]
  rfl

@[simp] theorem deleted_generationsKey :
    deleted c names urls g generationsKey = some (listText (names.filter (· ≠ g))) := Function.update_self ..

theorem deleted_of_ne (hk : key ≠ generationsKey) :
    deleted c names urls g key = if key ∈ urls.map (entryKey g) ∨ key = indexKey g then none else c key := by
  rw [deleted, Function.update_of_ne hk, Contents.deleteAll_apply]
  simp only [List.mem_append, List.mem_singleton]

@[simp] theorem deleted_indexKey : deleted c names urls g (indexKey g) = none := by
  rw [deleted_of_ne (indexKey_ne_generationsKey g), if_pos (.inr rfl)]

theorem deleted_entryKey :
    deleted c names urls g (entryKey g url) = if url ∈ urls then none else c (entryKey g url) := by
  have hmem : entryKey g url ∈ urls.map (entryKey g) ↔ url ∈ urls := by
    simp only [List.mem_map, entryKey_inj, exists_eq_right]
  rw [deleted_of_ne (entryKey_ne_generationsKey g url)]
  simp only [hmem, entryKey_ne_indexKey_self, or_false]

theorem deleted_of_not_owns (hk : key ≠ generationsKey) (ho : ¬ Owns g key) : deleted c names urls g key = c key := by
  rw [deleted_of_ne hk, if_neg]
  rintro (hm | rfl)
  · obtain ⟨u, -, rfl⟩ := List.mem_map.1 hm
    exact ho (.inr ⟨u, rfl⟩)
  · exact ho (.inl rfl)

theorem fst_mem_texts {pair : String × Bytes} (hp : pair ∈ texts g entries) : ∃ url, pair.1 = entryKey g url := by
  obtain ⟨e, -, rfl⟩ := List.mem_map.1 hp
  exact ⟨e.1, rfl⟩

/-- The texts of entries are kept nowhere but under the keys of entries. -/
theorem setAll_texts_of_ne (hk : ∀ url, key ≠ entryKey g url) : c.setAll (texts g entries) key = c key := by
  refine Contents.setAll_of_forall_ne fun pair hp => ?_
  obtain ⟨url, he⟩ := fst_mem_texts hp
  exact fun h => hk url (h.symm.trans he)

/-- Of several texts of an address the last one is kept. -/
theorem setAll_texts (c : Contents) (g url : String) (entries : List (String × Entry)) :
    c.setAll (texts g entries) (entryKey g url) =
      ((Keyed.ofList entries).get? url).elim (c (entryKey g url)) fun e => some (Text.utf8 e.json) := by
  induction entries generalizing c with
  | nil => rfl
  | cons e entries ih =>
    rw [show c.setAll (texts g (e :: entries)) =
        Contents.setAll (Function.update c (entryKey g e.1) (some (Text.utf8 e.2.json))) (texts g entries) from rfl,
      show Keyed.ofList (e :: entries) = ((Keyed.empty : Keyed String Entry).put e.1 e.2).putAll entries from rfl,
      Keyed.get?_putAll, ih]
    cases (Keyed.ofList entries).get? url with
    | some e' => rfl
    | none =>
      by_cases hu : url = e.1
      · rw [hu, Keyed.get?_put_self, Function.update_self]
        rfl
      · rw [Keyed.get?_put_of_ne _ _ hu, Function.update_of_ne (mt entryKey_inj.1 hu)]
        rfl

/-- What a store holds after entries were put, given the names of the generations and the addresses it had. -/
def filled (c : Contents) (names urls : List String) (g : String) (entries : List (String × Entry)) : Contents :=
  Function.update (opened (c.setAll (texts g entries)) names g) (indexKey g) (some (listText (listed urls entries)))

theorem run_putAll (hl : listOf (c generationsKey) = .ok names) (hu : listOf (c (indexKey g)) = .ok urls)
    (entries : List (String × Entry)) :
    (putAll g entries).run.run Contents.answer c = (.ok (), filled c names urls g entries) := by
  have hl' : listOf (c.setAll (texts g entries) generationsKey) = .ok names := by
    rw [setAll_texts_of_ne fun url => (entryKey_ne_generationsKey g url).symm, hl]
  have hu' : listOf (opened (c.setAll (texts g entries)) names g (indexKey g)) = .ok urls := by
    rw [opened_of_ne (indexKey_ne_generationsKey g),
      setAll_texts_of_ne fun url => (entryKey_ne_indexKey_self g url).symm, hu]
  rw [putAll, run_attempt, run_setAll]
  simp only []
  rw [run_attempt, show entries.map (fun x => (entryKey g x.1, Text.utf8 x.2.json)) = texts g entries from rfl,
    run_openGeneration hl']
  simp only []
  rw [run_attempt, run_readList, hu']
  rfl

theorem filled_generationsKey : filled c names urls g entries generationsKey = opened c names g generationsKey := by
  have hset : c.setAll (texts g entries) generationsKey = c generationsKey :=
    setAll_texts_of_ne fun url => (entryKey_ne_generationsKey g url).symm
  rw [filled, Function.update_of_ne (indexKey_ne_generationsKey g).symm, opened, opened]
  split
  · exact hset
  · rw [Function.update_self, Function.update_self]

@[simp] theorem filled_indexKey : filled c names urls g entries (indexKey g) = some (listText (listed urls entries)) :=
  Function.update_self ..

theorem filled_entryKey :
    filled c names urls g entries (entryKey g url) = c.setAll (texts g entries) (entryKey g url) := by
  rw [filled, Function.update_of_ne (entryKey_ne_indexKey_self g url), opened_of_ne (entryKey_ne_generationsKey g url)]

theorem filled_of_not_owns (hk : key ≠ generationsKey) (ho : ¬ Owns g key) :
    filled c names urls g entries key = c key := by
  rw [filled, Function.update_of_ne fun he => ho (.inl he), opened_of_ne hk,
    setAll_texts_of_ne fun url he => ho (.inr ⟨url, he⟩)]

theorem run_urls (g : String) (c : Contents) :
    (perform (.urls g)).run Contents.answer c = ((listOf (c (indexKey g))).map sorted, c) := by
  rw [perform, attempt, run_attempt, run_readList]
  cases listOf (c (indexKey g)) <;> rfl

/-- The answer that an operation gets from a store that does not fail. -/
def answerOf (c : Contents) (op : Operation) : op.Answer := ((perform op).run Contents.answer c).1

theorem answerOf_generations (c : Contents) : answerOf c .generations = listOf (c generationsKey) :=
  congrArg Prod.fst (run_readList generationsKey c)

theorem answerOf_get (c : Contents) (g url : String) : answerOf c (.get g url) = entryOf (c (entryKey g url)) :=
  congrArg Prod.fst (run_getEntry g url c)

theorem answerOf_urls (c : Contents) (g : String) : answerOf c (.urls g) = (listOf (c (indexKey g))).map sorted :=
  congrArg Prod.fst (run_urls g c)

/-- What a store that does not fail holds after an operation. -/
def after (c : Contents) (op : Operation) : Contents := ((perform op).run Contents.answer c).2

theorem trial_after (c : Contents) (op : Operation) :
    Trial c (perform op) ((perform op).exchanges Contents.answer c) (answerOf c op) (after c op) :=
  trial_run (perform op) c

def IsListed (g : String) (c : Contents) : Prop := ∃ names, answerOf c .generations = .ok names ∧ g ∈ names

def IsUrl (g : String) (c : Contents) (url : String) : Prop := ∃ urls, answerOf c (.urls g) = .ok urls ∧ url ∈ urls

def IsStored (g : String) (c : Contents) (url : String) : Prop := answerOf c (.get g url) ≠ .ok none

theorem isListed_iff : IsListed g c ↔ ∃ names, listOf (c generationsKey) = .ok names ∧ g ∈ names := by
  rw [IsListed, answerOf_generations]

theorem isUrl_iff : IsUrl g c url ↔ ∃ urls, listOf (c (indexKey g)) = .ok urls ∧ url ∈ urls := by
  rw [IsUrl, answerOf_urls]
  cases listOf (c (indexKey g)) with
  | error e => simp [Except.map]
  | ok urls => simp [Except.map, sorted]

theorem isStored_iff : IsStored g c url ↔ c (entryKey g url) ≠ none := by
  rw [IsStored, answerOf_get, ne_eq, ne_eq, not_iff_not]
  cases c (entryKey g url) with
  | none => simp
  | some bytes =>
    simp only [entryOf, reduceCtorEq, iff_false]
    cases decoded Entry.reader bytes <;> simp [Except.map]

/-! ### Stores that may fail -/

theorem readList_ends {r : Except Error (List String)} :
    (readList key).run.Ends t r ↔ ∃ a, t = [⟨.get key, a⟩] ∧ r = a.bind listOf := by
  rw [readList_eq, ends_attempt]
  constructor
  · rintro (⟨t₁, t₂, old, rfl, h₁, rfl, rfl⟩ | ⟨e, h, rfl⟩)
    · exact ⟨.ok old, by rw [List.append_nil]; exact ends_question.1 h₁, rfl⟩
    · exact ⟨.error e, ends_question.1 h, rfl⟩
  · rintro ⟨e | old, rfl, rfl⟩
    · exact .inr ⟨e, ends_question.2 rfl, rfl⟩
    · exact .inl ⟨_, [], old, rfl, ends_question.2 rfl, rfl, rfl⟩

/-- Reading a list changes nothing, and ends in the list or in an error. -/
theorem readList_trial {r : Except Error (List String)} (h : Trial c (readList key).run t r c') :
    c' = c ∧ ∀ strings, r = .ok strings → listOf (c key) = .ok strings := by
  obtain ⟨a, rfl, rfl⟩ := readList_ends.1 h.ends
  have htakes := follows_singleton.1 h.follows
  cases a with
  | error e => exact ⟨htakes, nofun⟩
  | ok old =>
    obtain ⟨rfl, rfl⟩ := htakes
    exact ⟨rfl, fun strings hs => hs⟩

/-- Reading an entry changes nothing, and ends in the entry or in an error. -/
theorem getEntry_trial {r : Except Error (Option Entry)} (h : Trial c (getEntry g url).run t r c') :
    c' = c ∧ ∀ stored, r = .ok stored → entryOf (c (entryKey g url)) = .ok stored := by
  rw [getEntry_eq, trial_attempt] at h
  rcases h with ⟨t₁, t₂, old, d, -, h₁, h₂⟩ | ⟨e, h₁, rfl⟩
  · obtain ⟨-, rfl, rfl⟩ := trial_question.1 h₁
    obtain ⟨-, rfl, rfl⟩ := trial_done.1 h₂
    exact ⟨rfl, fun _ => id⟩
  · exact ⟨(trial_question.1 h₁).2, nofun⟩

/-- A list that is set is set, or the store failed and still has the old value. -/
theorem writeList_trial {strings : List String} {r : Except Error Unit}
    (h : Trial c (writeList key strings).run t r c') :
    c' = Function.update c key (some (listText strings)) ∨ c' = c ∧ ∃ e, r = .error e := by
  obtain ⟨rfl, htakes⟩ := trial_question.1 h
  cases r with
  | ok => exact .inl htakes
  | error e => exact htakes.symm.imp_right fun he => ⟨he, e, rfl⟩

/-- A generation that is opened is there, or something failed and nothing was changed. -/
theorem openGeneration_trial {r : Except Error Unit} (h : Trial c (openGeneration g).run t r c') :
    (∃ names, listOf (c generationsKey) = .ok names ∧ c' = opened c names g) ∨ c' = c ∧ ∃ e, r = .error e := by
  rw [openGeneration_eq, trial_attempt] at h
  rcases h with ⟨t₁, t₂, names, d, -, h₁, h₂⟩ | ⟨e, h₁, rfl⟩
  · obtain ⟨rfl, hnames⟩ := readList_trial h₁
    have hl := hnames names rfl
    by_cases hg : g ∈ names
    · rw [if_pos hg] at h₂
      obtain ⟨-, -, rfl⟩ := trial_done.1 h₂
      exact .inl ⟨names, hl, by rw [opened, if_pos hg]⟩
    · rw [if_neg hg] at h₂
      exact (writeList_trial h₂).imp_left fun he => ⟨names, hl, by rw [opened, if_neg hg, he]⟩
  · exact .inr ⟨(readList_trial h₁).1, e, rfl⟩

end Persistent
end EdgeWorker.Cache
