import EdgeWorker.Host.Memory
import EdgeWorker.Proofs.Cache.Persistent

/-!
A storage over a store of single values and a storage in memory are not told apart by what they answer.

* `Keeps names c gs` — what a store holds while the generations are `gs`, as far as these names go;
* `Keeps.opened`, `Keeps.filled`, `Keeps.deleted` — each change of the one is that change of the other;
* `Keeps.perform` — one operation: the same answer, and the relation again;
* `answers_onStore` — a whole history.
-/

namespace EdgeWorker.Cache

open EdgeWorker.Action KeyValue Persistent

variable {c : Contents} {gs : Generations} {g h url : String} {entries : List (String × Entry)}

namespace Generations

/-- The addresses of a generation, in the order in which they were first put. -/
def urls (gs : Generations) (g : String) : List String := ((gs.get? g).map Keyed.keys).getD []

def entryAt? (gs : Generations) (g url : String) : Option Entry := (gs.get? g).bind fun entries => entries.get? url

theorem mem_urls : url ∈ gs.urls g ↔ (gs.entryAt? g url).isSome := by
  unfold urls entryAt?
  cases gs.get? g with
  | none => simp
  | some entries => exact Keyed.mem_keys

/-! ### Opening -/

theorem keys_openGeneration (gs : Generations) (g : String) :
    (gs.openGeneration g).keys = if g ∈ gs.keys then gs.keys else gs.keys ++ [g] := gs.keys_alter g _

theorem get?_openGeneration (gs : Generations) (g h : String) :
    (gs.openGeneration g).get? h = if h = g then some ((gs.get? g).getD Keyed.empty) else gs.get? h :=
  gs.get?_alter g h _

theorem urls_openGeneration (gs : Generations) (g h : String) : (gs.openGeneration g).urls h = gs.urls h := by
  unfold urls
  rw [get?_openGeneration]
  split
  · next he =>
    subst he
    cases gs.get? h <;> rfl
  · rfl

theorem entryAt?_openGeneration (gs : Generations) (g h url : String) :
    (gs.openGeneration g).entryAt? h url = gs.entryAt? h url := by
  unfold entryAt?
  rw [get?_openGeneration]
  split
  · next he =>
    subst he
    cases gs.get? h <;> rfl
  · rfl

/-! ### Putting -/

theorem keys_putAll (gs : Generations) (g : String) (entries : List (String × Entry)) :
    (gs.putAll g entries).keys = if g ∈ gs.keys then gs.keys else gs.keys ++ [g] := gs.keys_alter g _

theorem get?_putAll (gs : Generations) (g h : String) (entries : List (String × Entry)) :
    (gs.putAll g entries).get? h =
      if h = g then some (((gs.get? g).getD Keyed.empty).putAll entries) else gs.get? h := gs.get?_alter g h _

theorem keys_putAll_entries (m : Keyed String Entry) (entries : List (String × Entry)) :
    (m.putAll entries).keys = listed m.keys entries := by
  induction entries generalizing m with
  | nil => rfl
  | cons e entries ih =>
    have hput : (m.put e.1 e.2).keys = addTo m.keys e.1 := by
      rw [Keyed.put, Keyed.keys_alter, addTo]
      simp only [List.contains_iff_mem]
    rw [show m.putAll (e :: entries) = (m.put e.1 e.2).putAll entries from rfl, ih, hput]
    rfl

theorem urls_putAll_self (gs : Generations) (g : String) (entries : List (String × Entry)) :
    (gs.putAll g entries).urls g = listed (gs.urls g) entries := by
  unfold urls
  rw [get?_putAll, if_pos rfl]
  cases gs.get? g <;> exact keys_putAll_entries _ entries

theorem entryAt?_putAll_self (gs : Generations) (g url : String) (entries : List (String × Entry)) :
    (gs.putAll g entries).entryAt? g url = ((Keyed.ofList entries).get? url).or (gs.entryAt? g url) := by
  unfold entryAt?
  rw [get?_putAll, if_pos rfl]
  cases gs.get? g <;> exact Keyed.get?_putAll _ entries url

theorem urls_putAll_of_ne (hne : h ≠ g) : (gs.putAll g entries).urls h = gs.urls h := by
  unfold urls
  rw [get?_putAll, if_neg hne]

theorem entryAt?_putAll_of_ne (hne : h ≠ g) : (gs.putAll g entries).entryAt? h url = gs.entryAt? h url := by
  unfold entryAt?
  rw [get?_putAll, if_neg hne]

/-! ### Deleting -/

theorem get?_erase_self (gs : Generations) (g : String) : (gs.erase g).get? g = none := by
  rw [Keyed.get?_erase, if_pos rfl]

theorem urls_erase_of_ne (hne : h ≠ g) : urls (gs.erase g) h = gs.urls h := by
  unfold urls
  rw [Keyed.get?_erase, if_neg hne]

theorem entryAt?_erase_of_ne (hne : h ≠ g) : entryAt? (gs.erase g) h url = gs.entryAt? h url := by
  unfold entryAt?
  rw [Keyed.get?_erase, if_neg hne]

end Generations

/-! ### The names after an operation -/

/-- The names of the generations after an operation. -/
def Operation.namesAfter (names : List String) : Operation → List String
  | .openGeneration g | .put g _ _ | .putAll g _ => Persistent.addTo names g
  | .deleteGeneration g => names.filter (· ≠ g)
  | .generations | .get _ _ | .urls _ => names

theorem Generations.keys_perform (gs : Generations) (op : Operation) :
    (gs.perform op).2.keys = op.namesAfter gs.keys := by
  have haddTo (g : String) : (if g ∈ gs.keys then gs.keys else gs.keys ++ [g]) = Persistent.addTo gs.keys g := by
    simp only [Persistent.addTo, List.contains_iff_mem]
  cases op with
  | openGeneration g => exact (gs.keys_openGeneration g).trans (haddTo g)
  | put g url e => exact (gs.keys_putAll g _).trans (haddTo g)
  | putAll g entries => exact (gs.keys_putAll g _).trans (haddTo g)
  | deleteGeneration g => exact Keyed.keys_erase gs g
  | _ => rfl

theorem mem_namesAfter {op : Operation} {names : List String} {g : String} (h : g ∈ op.namesAfter names) :
    g ∈ names ∨ g ∈ op.generation? := by
  cases op with
  | openGeneration g' => exact (Persistent.mem_addTo.1 h).imp_right fun hg => by rw [hg]; rfl
  | put g' url e => exact (Persistent.mem_addTo.1 h).imp_right fun hg => by rw [hg]; rfl
  | putAll g' entries => exact (Persistent.mem_addTo.1 h).imp_right fun hg => by rw [hg]; rfl
  | deleteGeneration g' => exact .inl (List.mem_filter.1 h).1
  | _ => exact .inl h

/-! ### What a store holds of generations -/

/-- A store holds the generations, as far as these names go, which do not interfere. -/
structure Keeps (names : String → Prop) (c : Contents) (gs : Generations) : Prop where
  separate : Separate names
  list : listOf (c generationsKey) = .ok gs.keys
  urls : ∀ g, names g → listOf (c (indexKey g)) = .ok (gs.urls g)
  entries : ∀ g url, names g → entryOf (c (entryKey g url)) = .ok (gs.entryAt? g url)

variable {names : String → Prop}

theorem keeps_empty (h : Separate names) : Keeps names (fun _ => none) Generations.empty :=
  ⟨h, rfl, fun _ _ => rfl, fun _ _ _ => rfl⟩

namespace Keeps

/-- Where the keys of other generations were left alone, only one generation is to be looked at. -/
theorem of_others {c' : Contents} {gs' : Generations} (hk : Keeps names c gs) (hg : names g)
    (hothers : ∀ key, key ≠ generationsKey → ¬ Owns g key → c' key = c key)
    (hsame : ∀ h, h ≠ g → gs'.urls h = gs.urls h ∧ ∀ url, gs'.entryAt? h url = gs.entryAt? h url)
    (hnames : listOf (c' generationsKey) = .ok gs'.keys) (hurls : listOf (c' (indexKey g)) = .ok (gs'.urls g))
    (hentries : ∀ url, entryOf (c' (entryKey g url)) = .ok (gs'.entryAt? g url)) : Keeps names c' gs' := by
  refine ⟨hk.separate, hnames, fun h hh => ?_, fun h url hh => ?_⟩
  · by_cases hne : h = g
    · exact hne ▸ hurls
    · have hfree : ¬ Owns g (indexKey h) := (hk.separate h g hh hg hne).not_owns (.inl rfl)
      rw [hothers _ (indexKey_ne_generationsKey h) hfree, hk.urls h hh, (hsame h hne).1]
  · by_cases hne : h = g
    · exact hne ▸ hentries url
    · have hfree : ¬ Owns g (entryKey h url) := (hk.separate h g hh hg hne).not_owns (.inr ⟨url, rfl⟩)
      rw [hothers _ (entryKey_ne_generationsKey h url) hfree, hk.entries h url hh, (hsame h hne).2]

theorem list_opened (hk : Keeps names c gs) (g : String) :
    listOf (opened c gs.keys g generationsKey) = .ok (gs.openGeneration g).keys := by
  rw [opened, Generations.keys_openGeneration]
  split
  · exact hk.list
  · rw [Function.update_self, listOf_listText]

theorem opened (hk : Keeps names c gs) (g : String) : Keeps names (opened c gs.keys g) (gs.openGeneration g) := by
  refine ⟨hk.separate, hk.list_opened g, fun h hh => ?_, fun h url hh => ?_⟩
  · rw [opened_of_ne (indexKey_ne_generationsKey h), hk.urls h hh, gs.urls_openGeneration]
  · rw [opened_of_ne (entryKey_ne_generationsKey h url), hk.entries h url hh, gs.entryAt?_openGeneration]

theorem filled (hk : Keeps names c gs) (hg : names g) (entries : List (String × Entry)) :
    Keeps names (filled c gs.keys (gs.urls g) g entries) (gs.putAll g entries) := by
  apply hk.of_others hg
  · exact fun key hne ho => filled_of_not_owns hne ho
  · exact fun h hne => ⟨Generations.urls_putAll_of_ne hne, fun url => Generations.entryAt?_putAll_of_ne hne⟩
  · rw [filled_generationsKey, hk.list_opened, gs.keys_openGeneration, gs.keys_putAll]
  · rw [filled_indexKey, listOf_listText, gs.urls_putAll_self]
  · intro url
    rw [filled_entryKey, setAll_texts, gs.entryAt?_putAll_self]
    cases (Keyed.ofList entries).get? url with
    | none => exact hk.entries g url hg
    | some e => exact entryOf_json e

theorem deleted (hk : Keeps names c gs) (hg : names g) :
    Keeps names (deleted c gs.keys (gs.urls g) g) (gs.erase g) := by
  apply hk.of_others hg
  · exact fun key hne ho => deleted_of_not_owns hne ho
  · exact fun h hne => ⟨Generations.urls_erase_of_ne hne, fun url => Generations.entryAt?_erase_of_ne hne⟩
  · rw [deleted_generationsKey, listOf_listText, Keyed.keys_erase]
  · rw [deleted_indexKey, Generations.urls, gs.get?_erase_self]
    rfl
  · intro url
    rw [deleted_entryKey, Generations.entryAt?, gs.get?_erase_self]
    split
    · rfl
    · next hu =>
      -- an address that is not listed has no entry
      have hnone : gs.entryAt? g url = none := by
        rw [Generations.mem_urls, Option.not_isSome_iff_eq_none] at hu
        exact hu
      rw [hk.entries g url hg, hnone]
      rfl

/-- Each operation is answered alike, and leaves what is alike. -/
theorem perform (hk : Keeps names c gs) (op : Operation) (hop : ∀ g ∈ op.generation?, names g) :
    ((perform op).run Contents.answer c).1 = (gs.perform op).1 ∧
      Keeps names ((perform op).run Contents.answer c).2 (gs.perform op).2 := by
  cases op with
  | generations =>
    have hrun : (Persistent.perform .generations).run Contents.answer c = (listOf (c generationsKey), c) :=
      run_readList generationsKey c
    rw [hrun]
    exact ⟨hk.list, hk⟩
  | openGeneration g =>
    have hrun : (Persistent.perform (.openGeneration g)).run Contents.answer c = _ := run_openGeneration hk.list
    rw [hrun]
    exact ⟨rfl, hk.opened g⟩
  | deleteGeneration g =>
    by_cases hmem : g ∈ gs.keys
    · have hrun : (Persistent.perform (.deleteGeneration g)).run Contents.answer c = _ :=
        run_deleteGeneration hk.list hmem (hk.urls g (hop g rfl))
      rw [hrun]
      exact ⟨congrArg Except.ok (List.contains_iff_mem.2 hmem).symm, hk.deleted (hop g rfl)⟩
    · have hrun : (Persistent.perform (.deleteGeneration g)).run Contents.answer c = _ :=
        run_deleteGeneration_of_not_mem hk.list hmem
      rw [hrun]
      refine ⟨congrArg Except.ok ?_, ?_⟩
      · exact (Bool.eq_false_iff.2 (mt List.contains_iff_mem.1 hmem)).symm
      · rw [Generations.perform, Keyed.erase_of_not_mem hmem]
        exact hk
  | get g url =>
    have hrun : (Persistent.perform (.get g url)).run Contents.answer c = _ := run_getEntry g url c
    rw [hrun]
    exact ⟨hk.entries g url (hop g rfl), hk⟩
  | put g url entry =>
    have hrun : (Persistent.perform (.put g url entry)).run Contents.answer c = _ :=
      run_putAll hk.list (hk.urls g (hop g rfl)) [(url, entry)]
    rw [hrun]
    exact ⟨rfl, hk.filled (hop g rfl) _⟩
  | putAll g entries =>
    have hrun : (Persistent.perform (.putAll g entries)).run Contents.answer c = _ :=
      run_putAll hk.list (hk.urls g (hop g rfl)) entries
    rw [hrun]
    exact ⟨rfl, hk.filled (hop g rfl) _⟩
  | urls g =>
    rw [run_urls, hk.urls g (hop g rfl)]
    exact ⟨rfl, hk⟩

end Keeps
end EdgeWorker.Cache

/-! ### Hosts -/

namespace EdgeWorker.Host

open EdgeWorker.Action EdgeWorker.Cache Cache.KeyValue Cache.Persistent

/-- A store that refuses nothing holds these contents. -/
structure Store.Holds (s : Store) (c : Contents) : Prop where
  get? : ∀ key, s.values.get? key = c key
  willing : s.refusedGets = [] ∧ s.refusedSets = [] ∧ s.refusedDeletes = []

/-- A store that refuses nothing answers as its contents say. -/
theorem Store.Holds.answer {s : Store} {c : Contents} (hs : s.Holds c) (logs : List Log.Record)
    (q : KeyValue.Question) : (Store.answer q (s, logs)).1 = (Contents.answer q c).1 ∧
      (Store.answer q (s, logs)).2.1.Holds (Contents.answer q c).2 := by
  obtain ⟨hget, hg, hset, hd⟩ := hs
  cases q with
  | get key =>
    have hanswer : s.get key = .ok (c key) := by simp [Store.get, hg, hget]
    exact ⟨hanswer, hget, hg, hset, hd⟩
  | set key value =>
    have hanswer : Store.answer (.set key value) (s, logs) =
        (.ok (), { s with values := s.values.put key value }, logs) := by
      simp [Store.answer, Store.set, hset]
    rw [hanswer]
    refine ⟨rfl, fun k => ?_, hg, hset, hd⟩
    rw [Keyed.put, Keyed.get?_alter, hget k]
    exact (Function.update_apply c key (some value) k).symm
  | delete key =>
    have hanswer : Store.answer (.delete key) (s, logs) = (.ok (), { s with values := s.values.erase key }, logs) := by
      simp [Store.answer, Store.delete, hd]
    rw [hanswer]
    refine ⟨rfl, fun k => ?_, hg, hset, hd⟩
    rw [Keyed.get?_erase, hget k]
    exact (Function.update_apply c key none k).symm
  | report key e => exact ⟨rfl, hget, hg, hset, hd⟩

/-- Whatever was logged, a store answers operations as the generations that it keeps do. -/
theorem Store.Holds.perform {s : Store} {c : Contents} {gs : Generations} {names : String → Prop} (h : s.Holds c)
    (hkeeps : Keeps names c gs) (logs : List Log.Record) {op : Operation} (hop : ∀ g ∈ op.generation?, names g) :
    ((Persistent.perform op).run Store.answer (s, logs)).1 = (gs.perform op).1 ∧
      ∃ c', ((Persistent.perform op).run Store.answer (s, logs)).2.1.Holds c' ∧ Keeps names c' (gs.perform op).2 := by
  obtain ⟨hanswer, hstore⟩ := run_related (R := fun (s : Store × List Log.Record) c => s.1.Holds c)
    (fun q s c hs => hs.answer s.2 q) (Persistent.perform op) (s := (s, logs)) h
  obtain ⟨hsame, hnext⟩ := hkeeps.perform op hop
  exact ⟨hanswer.trans hsame, _, hstore, hnext⟩

namespace Memory

/-- A host with an empty network and an empty store of single values. -/
def onStore : Memory := { empty with storage := .keyValue .empty }

def answers (m : Memory) : List Operation → List ((op : Operation) × op.Answer)
  | [] => []
  | op :: ops =>
    let (answer, m) := m.answer (.store op)
    ⟨op, answer⟩ :: m.answers ops

/-- Two hosts in which no operation fails, one of which keeps in a store what the other one keeps in memory. -/
structure Mirrors (m m' : Memory) : Prop where
  storages : ∃ s c gs, m.storage = .keyValue s ∧ s.Holds c ∧ m'.storage = .memory gs ∧ Keeps Unmarked c gs
  failing : m.failing = [] ∧ m'.failing = []

theorem mirrors_empty : Mirrors onStore empty where
  storages := ⟨.empty, fun _ => none, .empty, rfl, ⟨fun _ => rfl, rfl, rfl, rfl⟩, rfl, keeps_empty separate_unmarked⟩
  failing := ⟨rfl, rfl⟩

theorem answer_store {m : Memory} (hm : m.failing = []) (op : Operation) : m.answer (.store op) = m.perform op := by
  simp [answer, hm]

theorem Mirrors.answer {m m' : Memory} (h : Mirrors m m') {op : Operation} (hop : ∀ g ∈ op.generation?, Unmarked g) :
    (m.answer (.store op)).1 = (m'.answer (.store op)).1 ∧
      Mirrors (m.answer (.store op)).2 (m'.answer (.store op)).2 := by
  obtain ⟨⟨s, c, gs, hs, hholds, hgs, hkeeps⟩, hf, hf'⟩ := h
  obtain ⟨hanswer, c', hholds', hkeeps'⟩ := hholds.perform hkeeps m.logs hop
  rw [answer_store hf, answer_store hf', Memory.perform, Memory.perform, hs, hgs]
  exact ⟨hanswer, ⟨_, c', _, rfl, hholds', rfl, hkeeps'⟩, hf, hf'⟩

theorem Mirrors.answers {m m' : Memory} (h : Mirrors m m') (ops : List Operation)
    (hops : ∀ op ∈ ops, ∀ g ∈ op.generation?, Unmarked g) : m.answers ops = m'.answers ops := by
  -- what an operation leaves is mirrored again
  induction ops generalizing m m' with
  | nil => rfl
  | cons op ops ih =>
    obtain ⟨hanswer, hnext⟩ := h.answer (hops op List.mem_cons_self)
    have hrest := ih hnext fun op hop => hops op (List.mem_cons_of_mem _ hop)
    simp only [Memory.answers]
    rw [hanswer, hrest]

/-- A history in which an address is put twice at once, and in which a generation comes back after its deletion. -/
def returning : List Operation :=
  [.putAll "v1" [("b", .of 200 [1] .epoch), ("a", .of 200 [2] .epoch), ("b", .of 200 [3] .epoch)], .get "v1" "b",
    .urls "v1", .openGeneration "v2", .deleteGeneration "v1", .get "v1" "b", .put "v1" "c" (.of 404 [] .epoch),
    .generations, .urls "v1"]

end Memory
end EdgeWorker.Host
