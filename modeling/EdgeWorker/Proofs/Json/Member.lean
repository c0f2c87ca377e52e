import EdgeWorker.Proofs.Json.Value

/-!
The members of an object, in its tree and in its value.

* `Tree.Distinct`, `Tree.Named` — no name is repeated, and every name is a text;
* `exists_fields` — a record finds the members that the object has of its names (`Fields.FoundIn`);
* `member?_of_value?` — the members of the value are the values of the members;
* `length_lt_text` — the text of an object is longer than that of a string in it;
* `Kind` — a tree is of the kind of its value, from which it can be told what is read as a string (`string_of_value?`), or
  as an integer or null (`isSome_nullable_int`);
* `strings_eq_some_iff` — what is read as strings is what has the array of these strings for its value.
-/

namespace EdgeWorker.Json

variable {members : List (Option String × Tree)} {name : String} {depth : Nat} {t : Tree} {v : Value}

/-! ### Names -/

namespace Tree

/-- The first member of a name. -/
def memberIn? (name : String) : List (Option String × Tree) → Option Tree
  | [] => none
  | (key, t) :: rest => if key = some name then some t else memberIn? name rest

/-- No two members have the same text for a name. -/
def Distinct (members : List (Option String × Tree)) : Prop := (members.filterMap Prod.fst).Nodup

/-- Every member has a text for a name. -/
def Named (members : List (Option String × Tree)) : Prop := ∀ m ∈ members, m.1.isSome

theorem memberIn?_of_not_mem (h : name ∉ members.filterMap Prod.fst) : memberIn? name members = none := by
  induction members with
  | nil => rfl
  | cons m rest ih =>
    obtain ⟨key, t⟩ := m
    rw [List.mem_filterMap] at h
    rw [memberIn?, if_neg fun he => h ⟨_, List.mem_cons_self, he⟩]
    refine ih fun hrest => h ?_
    obtain ⟨m, hm, he⟩ := List.mem_filterMap.1 hrest
    exact ⟨m, List.mem_cons_of_mem _ hm, he⟩

theorem mem_of_memberIn? (h : memberIn? name members = some t) : (some name, t) ∈ members := by
  induction members with
  | nil => cases h
  | cons m rest ih =>
    obtain ⟨key, u⟩ := m
    rw [memberIn?] at h
    split at h
    · next he =>
      cases h
      rw [he]
      exact List.mem_cons_self
    · exact List.mem_cons_of_mem _ (ih h)

theorem distinct_cons {rest : List (Option String × Tree)} :
    Distinct ((some name, t) :: rest) ↔ name ∉ rest.filterMap Prod.fst ∧ Distinct rest := List.nodup_cons

end Tree

/-! ### Records -/

/-- Fields that are the members of an object, for these names. -/
structure Fields.FoundIn (fs : Fields) (names : List String) (depth : Nat) (members : List (Option String × Tree)) : Prop where
  depth_eq : fs.depth = depth
  lookup_eq : ∀ name ∈ names, fs.found.lookup name = Tree.memberIn? name members

namespace Fields

variable {fs : Fields} {names : List String} {α : Type}

theorem FoundIn.required_eq (h : fs.FoundIn names depth members) (hname : name ∈ names) (r : Reader α) :
    fs.required name r = (Tree.memberIn? name members).bind (r depth) := by
  rw [required, h.lookup_eq name hname, h.depth_eq]

theorem FoundIn.defaulted_eq (h : fs.FoundIn names depth members) (hname : name ∈ names) (r : Reader α) (default : α) :
    fs.defaulted name r default = (Tree.memberIn? name members).elim (some default) (r depth) := by
  rw [defaulted, h.lookup_eq name hname, h.depth_eq]
  cases Tree.memberIn? name members <;> rfl

theorem exists_take? (names : List String) (hnamed : Tree.Named members) (hdistinct : Tree.Distinct members) : ∃ found,
    take? names members = some found ∧ ∀ name ∈ names, found.lookup name = Tree.memberIn? name members := by
  induction members with
  | nil => exact ⟨[], rfl, fun _ _ => rfl⟩
  | cons m rest ih =>
    obtain ⟨key, t⟩ := m
    obtain ⟨k, rfl⟩ := Option.isSome_iff_exists.1 (hnamed _ List.mem_cons_self)
    obtain ⟨hnone, hrest⟩ := Tree.distinct_cons.1 hdistinct
    obtain ⟨found, htake, hfound⟩ := ih (fun m hm => hnamed m (List.mem_cons_of_mem _ hm)) hrest
    rw [take?]
    simp only [htake]
    by_cases hk : k ∈ names
    · -- no member behind has the name, which would be refused
      refine ⟨(k, t) :: found, ?_, fun name hname => ?_⟩
      · rw [if_neg (by simp [hk]), if_neg (by simp [hfound k hk, Tree.memberIn?_of_not_mem hnone])]
      · rw [Keyed.lookup_cons_eq, Tree.memberIn?, hfound name hname]
        simp only [Option.some.injEq, eq_comm]
    · refine ⟨found, if_pos (by simp [hk]), fun name hname => ?_⟩
      rw [hfound name hname, Tree.memberIn?, if_neg]
      rintro ⟨⟩
      exact hk hname

/-- A record finds the members of its names where they are. -/
theorem exists_fields (names : List String) (depth : Nat) (hnamed : Tree.Named members) (hdistinct : Tree.Distinct members) :
    ∃ fs, of? names (depth + 1) (.object members) = some fs ∧ fs.FoundIn names depth members := by
  obtain ⟨found, htake, hfound⟩ := exists_take? names hnamed hdistinct
  refine ⟨⟨false, depth, found⟩, ?_, rfl, hfound⟩
  rw [of?, htake, Option.map_some]

theorem take?_eq_none (names : List String) (h : ¬ Tree.Named members) : take? names members = none := by
  induction members with
  | nil => exact absurd (fun m hm => absurd hm List.not_mem_nil) h
  | cons m rest ih =>
    obtain ⟨_ | k, t⟩ := m
    · rfl
    · have hrest : ¬ Tree.Named rest := fun hrest => h fun m hm => (List.mem_cons.1 hm).elim (fun he => he ▸ rfl) (hrest m)
      rw [take?]
      simp only [ih hrest]

/-- A name that stands for no text is not skipped. -/
theorem fields_eq_none (names : List String) (depth : Nat) (h : ¬ Tree.Named members) :
    of? names (depth + 1) (.object members) = none := by
  rw [of?, take?_eq_none names h, Option.map_none]

end Fields

/-! ### Values -/

theorem memberValues?_eq_some {vs : List (String × Value)} (h : Tree.memberValues? depth members = some vs) :
    members.map (fun m => (m.1, m.2.value? depth)) = vs.map fun m => (some m.1, some m.2) := by
  induction members generalizing vs with
  | nil =>
    cases h
    rfl
  | cons m rest ih =>
    obtain ⟨key, t⟩ := m
    unfold Tree.memberValues? at h
    split at h
    · next hv hrest =>
      cases h
      rw [List.map_cons, List.map_cons, ih hrest, hv]
    · cases h

/-- An object with a value has texts for names, and members that have values. -/
theorem named_of_memberValues? {vs : List (String × Value)} (h : Tree.memberValues? depth members = some vs) :
    Tree.Named members ∧ ∀ m ∈ members, (m.2.value? depth).isSome := by
  have hall (m : Option String × Tree) (hm : m ∈ members) : ∃ x ∈ vs, (some x.1, some x.2) = (m.1, m.2.value? depth) := by
    refine List.mem_map.1 ?_
    rw [← memberValues?_eq_some h]
    exact List.mem_map_of_mem hm
  refine ⟨fun m hm => ?_, fun m hm => ?_⟩
  · obtain ⟨x, -, hx⟩ := hall m hm
    exact Option.isSome_iff_exists.2 ⟨x.1, (congrArg Prod.fst hx).symm⟩
  · obtain ⟨x, -, hx⟩ := hall m hm
    exact Option.isSome_iff_exists.2 ⟨x.2, (congrArg Prod.snd hx).symm⟩

theorem lookup_of_memberValues? {vs : List (String × Value)} (h : Tree.memberValues? depth members = some vs) (name : String) :
    vs.lookup name = (Tree.memberIn? name members).bind (Tree.value? depth) := by
  have hmap := memberValues?_eq_some h
  clear h
  induction members generalizing vs with
  | nil =>
    rw [List.map_eq_nil_iff.1 hmap.symm]
    rfl
  | cons m rest ih =>
    cases vs with
    | nil => cases hmap
    | cons x vs =>
      obtain ⟨key, t⟩ := m
      obtain ⟨k, v⟩ := x
      rw [List.map_cons, List.map_cons, List.cons.injEq, Prod.mk.injEq] at hmap
      obtain ⟨⟨hkey, hv⟩, hrest⟩ := hmap
      cases hkey
      rw [Keyed.lookup_cons_eq, Tree.memberIn?, ih hrest]
      by_cases hk : name = k
      · rw [if_pos hk, if_pos (congrArg some hk.symm)]
        exact hv.symm
      · rw [if_neg hk, if_neg fun he => hk (Option.some.inj he).symm]

/-- The members of the value of an object are the values of its members. -/
theorem member?_of_value? (hdistinct : Tree.Distinct members) (h : (Tree.object members).value? (depth + 1) = some v)
    (name : String) : v.member? name = (Tree.memberIn? name members).bind (Tree.value? depth) := by
  rw [Tree.value?] at h
  obtain ⟨vs, hvs, rfl⟩ := Option.map_eq_some_iff.1 h
  have hnames : members.map Prod.fst = vs.map fun m => some m.1 := by
    simpa [Function.comp_def] using congrArg (List.map Prod.fst) (memberValues?_eq_some hvs)
  have hall : vs.map Prod.fst = members.filterMap Prod.fst := calc
    vs.map Prod.fst = (vs.map fun m => some m.1).filterMap id := by simp [List.filterMap_map]
    _ = members.filterMap Prod.fst := by
      rw [← hnames]
      simp [List.filterMap_map]
  have hnodup : (vs.map Prod.fst).Nodup := by
    rw [hall]
    exact hdistinct
  rw [member?_ofMembers, Keyed.lookup_reverse hnodup, lookup_of_memberValues? hvs]

/-! ### Texts -/

theorem length_le_commas {piece : List Char} {pieces : List (List Char)} (h : piece ∈ pieces) :
    piece.length ≤ (commas pieces).length := by
  induction pieces with
  | nil => cases h
  | cons p rest ih =>
    cases rest with
    | nil =>
      rw [List.mem_singleton.1 h]
      exact Nat.le_refl _
    | cons p' rest =>
      have hcommas : commas (p :: p' :: rest) = p ++ ',' :: commas (p' :: rest) := rfl
      rw [hcommas, List.length_append, List.length_cons]
      rcases List.mem_cons.1 h with rfl | h
      · omega
      · have := ih h
        omega

theorem length_le_quote (s : String) : s.length ≤ (quote s).length := by
  have hpos (c : Char) : 1 ≤ (escape c).length := by
    unfold escape
    split_ifs <;> simp
  have hflat : ∀ cs : List Char, cs.length ≤ (cs.flatMap escape).length := by
    intro cs
    induction cs with
    | nil => exact Nat.le_refl _
    | cons c cs ih =>
      have := hpos c
      rw [List.flatMap_cons, List.length_append, List.length_cons]
      omega
  have := hflat s.toList
  rw [String.length_toList] at this
  rw [quote, List.length_append, List.length_cons]
  omega

/-- The text of an object is longer than that of each string in it. -/
theorem length_lt_text {s : String} (h : v.member? name = some (.string s)) : s.length < v.text.length := by
  cases v with
  | object ms =>
    have hmem : (name, Value.string s) ∈ ms := by
      obtain ⟨before, after, rfl, -⟩ := List.lookup_eq_some_iff.1 h
      simp
    have hpiece : writeMember name (quote s) ∈ writeMembers ms := by
      rw [writeMembers_eq_map]
      exact List.mem_map.2 ⟨_, hmem, by rw [Value.write]⟩
    have hle := length_le_commas hpiece
    have hquote := length_le_quote s
    rw [writeMember, List.length_append, List.length_cons] at hle
    rw [Value.text, String.length_ofList, Value.write, braces, List.length_append, List.length_cons]
    omega
  | _ => cases h

/-! ### Readers -/

/-- A number stands for an integer or for a double. -/
theorem value?_numeral {n : Numeral} (h : n.value? = some v) : (∃ i, v = .int i) ∨ ∃ x, v = .double x := by
  unfold Numeral.value? at h
  dsimp only at h
  split at h
  · split at h
    · split at h
      · cases h
      · exact .inr ⟨_, (Option.some.inj h).symm⟩
    · obtain ⟨x, -, rfl⟩ := Option.map_eq_some_iff.1 h
      exact .inr ⟨x, rfl⟩
  · split at h
    · exact .inl ⟨_, (Option.some.inj h).symm⟩
    · obtain ⟨x, -, rfl⟩ := Option.map_eq_some_iff.1 h
      exact .inr ⟨x, rfl⟩

/-- The trees that a value can have: those of its kind. -/
inductive Kind : Tree → Value → Prop
  | null : Kind .null .null
  | bool (b : Bool) : Kind (.bool b) (.bool b)
  | int {n : Numeral} {i : Int} : n.value? = some (.int i) → Kind (.number n) (.int i)
  | double {n : Numeral} {x : Decimal.Double} : n.value? = some (.double x) → Kind (.number n) (.double x)
  | string (s : String) : Kind (.string (some s)) (.string s)
  | array (ts : List Tree) (vs : List Value) : Kind (.array ts) (.array vs)
  | object (members : List (Option String × Tree)) (vs : List (String × Value)) : Kind (.object members) (.object vs)

theorem kind_of_value? (h : t.value? depth = some v) : Kind t v := by
  cases t with
  | null =>
    rw [Tree.value?] at h
    cases h
    exact .null
  | bool b =>
    rw [Tree.value?] at h
    cases h
    exact .bool b
  | number n =>
    rw [Tree.value?] at h
    rcases value?_numeral h with ⟨i, rfl⟩ | ⟨x, rfl⟩
    · exact .int h
    · exact .double h
  | string s =>
    rw [Tree.value?] at h
    obtain ⟨x, rfl, rfl⟩ := Option.map_eq_some_iff.1 h
    exact .string x
  | array ts =>
    unfold Tree.value? at h
    split at h
    · cases h
    · obtain ⟨vs, -, rfl⟩ := Option.map_eq_some_iff.1 h
      exact .array ts vs
  | object members =>
    unfold Tree.value? at h
    split at h
    · cases h
    · obtain ⟨vs, -, rfl⟩ := Option.map_eq_some_iff.1 h
      exact .object members _

theorem string_of_value? (h : t.value? depth = some v) : Reader.string depth t = v.string? := by
  cases kind_of_value? h <;> rfl

/-- What is read as a string is what has this string for its value. -/
theorem string_eq_some_iff {s : String} : Reader.string depth t = some s ↔ t.value? depth = some (.string s) := by
  constructor
  · intro h
    cases t with
    | string x =>
      obtain rfl : x = some s := h
      rw [Tree.value?]
      rfl
    | _ => cases h
  · exact string_of_value?

theorem values?_cons_eq_some {ts : List Tree} {vs : List Value} : Tree.values? depth (t :: ts) = some vs ↔
    ∃ v us, t.value? depth = some v ∧ Tree.values? depth ts = some us ∧ v :: us = vs := by
  rw [Tree.values?]
  cases t.value? depth <;> cases Tree.values? depth ts <;> simp

theorem mapM_string_eq_some_iff {ts : List Tree} {ss : List String} :
    ts.mapM (Reader.string depth) = some ss ↔ Tree.values? depth ts = some (ss.map .string) := by
  induction ts generalizing ss with
  | nil => cases ss <;> simp [Tree.values?]
  | cons t ts ih =>
    have hcons : (t :: ts).mapM (Reader.string depth) = some ss ↔
        ∃ s us, Reader.string depth t = some s ∧ ts.mapM (Reader.string depth) = some us ∧ s :: us = ss := by
      simp [List.mapM_cons, Option.bind_eq_some_iff]
    rw [hcons, values?_cons_eq_some]
    constructor
    · rintro ⟨s, us, hs, hus, rfl⟩
      exact ⟨_, _, string_eq_some_iff.1 hs, ih.1 hus, rfl⟩
    · rintro ⟨v, us, hv, hus, he⟩
      obtain ⟨s, ss', rfl, rfl, rfl⟩ := List.map_eq_cons_iff.1 he.symm
      exact ⟨s, ss', string_eq_some_iff.2 hv, ih.2 hus, rfl⟩

/-- What is read as strings is what has the array of these strings for its value. -/
theorem strings_eq_some_iff {ss : List String} :
    Reader.list Reader.string depth t = some ss ↔ t.value? depth = some (.array (ss.map .string)) := by
  constructor
  · intro h
    unfold Reader.list at h
    split at h
    · next depth ts =>
      rw [Tree.value?, mapM_string_eq_some_iff.1 h]
      rfl
    · cases h
  · intro h
    obtain ⟨ts, rfl⟩ : ∃ ts, t = .array ts := by
      cases kind_of_value? h with
      | array ts vs => exact ⟨ts, rfl⟩
    cases depth with
    | zero => simp [Tree.value?] at h
    | succ depth =>
      rw [Tree.value?] at h
      obtain ⟨vs, hvs, he⟩ := Option.map_eq_some_iff.1 h
      cases he
      exact mapM_string_eq_some_iff.2 hvs
theorem nullable_of_ne {α : Type} (r : Reader α) (depth : Nat) (h : t ≠ .null) :
    Reader.nullable r depth t = (r depth t).map some := by
  cases t with
  | null => exact absurd rfl h
  | _ => rfl

/-- Whether a value is null, or an integer from `low` to `high`. -/
def Value.isIntOrNull (low high : Int) : Value → Bool
  | .null => true
  | .int n => low ≤ n && n ≤ high
  | _ => false

theorem isSome_nullable_int (low high : Int) (h : t.value? depth = some v) :
    (Reader.nullable (Reader.int low high) depth t).isSome = v.isIntOrNull low high := by
  cases kind_of_value? h with
  | null => rfl
  | @int n i hn =>
    rw [nullable_of_ne _ _ Tree.noConfusion, Option.isSome_map, Reader.int, hn]
    by_cases hi : low ≤ i && i ≤ high <;> simp [Value.isIntOrNull, hi]
  | @double n x hn =>
    rw [nullable_of_ne _ _ Tree.noConfusion, Option.isSome_map, Reader.int, hn]
    rfl
  | _ => rfl

end EdgeWorker.Json
