import EdgeWorker.Proofs.Cache.Frame

/-!
Two instances that put entries into one generation of one store at the same time.

* `Interleaved` — the questions of the two calls take turns in any way, and both calls succeed;
* `Overtakes` — one call sets the index between the reading and the setting of the other one;
* `Interleaved.index` — whose addresses the index has in the end: those of the call that sets it last, and those of the
  other one unless it was overtaken;
* `Interleaved.isUrl_or_overtakes` — what is stored is listed, or was put by a call that was overtaken.
-/

namespace EdgeWorker.Cache

open EdgeWorker.Action

namespace KeyValue

variable {c c' d : Contents} {key : String} {x : Exchange}

/-- One of two instances. -/
inductive Side where
  | left
  | right
  deriving DecidableEq

theorem Side.exists_other (j : Side) : ∃ i, j ≠ i ∧ ∀ k, k = j ∨ k = i := by
  cases j with
  | left => exact ⟨.right, nofun, fun k => by cases k <;> simp⟩
  | right => exact ⟨.left, nofun, fun k => by cases k <;> simp⟩

/-- The exchanges of two instances with one store, in their order. -/
abbrev History := List (Side × Exchange)

variable {H H' : History} {i : Side} {t t' : List Exchange}

/-- The exchanges of one instance. -/
def part (i : Side) (H : History) : List Exchange := H.filterMap fun x => if x.1 = i then some x.2 else none

theorem part_append (i : Side) (H H' : History) : part i (H ++ H') = part i H ++ part i H' := List.filterMap_append

theorem part_cons_self (i : Side) (x : Exchange) (H : History) : part i ((i, x) :: H) = x :: part i H := by
  simp [part]

theorem part_cons_of_ne {j : Side} (hne : j ≠ i) (x : Exchange) (H : History) : part i ((j, x) :: H) = part i H := by
  simp [part, hne]

@[simp] theorem part_map_self (i : Side) (t : List Exchange) : part i (t.map (i, ·)) = t := by
  induction t with
  | nil => rfl
  | cons x t ih => rw [List.map_cons, part_cons_self, ih]

theorem part_map_of_ne {j : Side} (hne : j ≠ i) (t : List Exchange) : part i (t.map (j, ·)) = [] := by
  induction t with
  | nil => rfl
  | cons x t ih => rw [List.map_cons, part_cons_of_ne hne, ih]

theorem map_snd_map (i : Side) (t : List Exchange) : (t.map (i, ·)).map Prod.snd = t := by
  rw [List.map_map]
  exact List.map_id t

/-- Where an instance has an exchange, the history has it, between what stands before it and what stands behind it. -/
theorem part_split (h : part i H = t ++ x :: t') :
    ∃ H₁ H₂, H = H₁ ++ (i, x) :: H₂ ∧ part i H₁ = t ∧ part i H₂ = t' := by
  obtain ⟨H₁, H₂, rfl, h₁, h₂⟩ := List.filterMap_eq_append_iff.1 h
  obtain ⟨H₃, ⟨j, y⟩, H₄, rfl, h₃, hy, h₄⟩ := List.filterMap_eq_cons_iff.1 h₂
  have hnone : part i H₃ = [] := List.filterMap_eq_nil_iff.2 h₃
  split at hy
  · next hj =>
    cases hy
    cases hj
    refine ⟨H₁ ++ H₃, H₄, by rw [List.append_assoc], ?_, h₄⟩
    rw [part_append, hnone, List.append_nil]
    exact h₁
  · cases hy

theorem mem_part {y : Side × Exchange} (hy : y ∈ H) : y.2 ∈ part y.1 H :=
  List.mem_filterMap.2 ⟨y, hy, if_pos rfl⟩

theorem mem_of_mem_part (hx : x ∈ part i H) : x ∈ H.map Prod.snd := by
  obtain ⟨y, hy, he⟩ := List.mem_filterMap.1 hx
  split at he
  · cases he
    exact List.mem_map_of_mem hy
  · cases he

/-- A key that neither instance is to change keeps its value. -/
theorem Follows.eq_of_parts (h : Follows c (H.map Prod.snd) c') (hH : ∀ i, ∀ x ∈ part i H, ¬ x.1.Changes key) :
    c' key = c key := by
  refine h.eq_of_not_changes fun x hx => ?_
  obtain ⟨y, hy, rfl⟩ := List.mem_map.1 hx
  exact hH y.1 y.2 (mem_part hy)

theorem Follows.split (h : Follows c ((H ++ (i, x) :: H').map Prod.snd) c') :
    ∃ d d', Follows c (H.map Prod.snd) d ∧ Takes d x d' ∧ Follows d' (H'.map Prod.snd) c' := by
  rw [List.map_append] at h
  obtain ⟨d, hd, d', hx, h'⟩ := follows_append.1 h
  exact ⟨d, d', hd, hx, h'⟩

end KeyValue

namespace Persistent

open KeyValue

variable {c c' : Contents} {t : List Exchange} {g url : String} {entries : List (String × Entry)} {H : History}
  {es : Side → List (String × Entry)}

/-! ### One call -/

def indexRead (g : String) (a : Option Bytes) : Exchange := ⟨.get (indexKey g), .ok a⟩

/-- The index is set to the addresses it had and those of entries. -/
def indexWrite (g : String) (urls : List String) (entries : List (String × Entry)) : Exchange :=
  ⟨.set (indexKey g) (listText (listed urls entries)), .ok ()⟩

/-- A call that succeeds: its entries are written, then its generation is opened, and at last it reads the index and
sets it. -/
theorem putAll_ends (h : (putAll g entries).run.Ends t (.ok ())) : ∃ t₁ t₂ a urls,
    t = t₁ ++ (t₂ ++ [indexRead g a, indexWrite g urls entries]) ∧ (setAll (texts g entries)).run.Ends t₁ (.ok ()) ∧
      (openGeneration g).run.Ends t₂ (.ok ()) ∧ listOf a = .ok urls := by
  rw [putAll_eq, ends_attempt] at h
  obtain ⟨t₁, t₂, _, rfl, h₁, h₂⟩ | ⟨e, -, he⟩ := h
  · obtain ⟨t₃, t₄, _, rfl, h₃, h₄⟩ | ⟨e, -, he⟩ := ends_attempt.1 h₂
    · obtain ⟨t₅, t₆, urls, rfl, h₅, h₆⟩ | ⟨e, -, he⟩ := ends_attempt.1 h₄
      · obtain ⟨a, rfl, ha⟩ := readList_ends.1 h₅
        obtain rfl := ends_question.1 h₆
        cases a with
        | error e => cases ha
        | ok a => exact ⟨t₁, t₃, a, urls, rfl, h₁, h₃, ha.symm⟩
      · cases he
    · cases he
  · cases he

/-- Before it reads the index, a call leaves the index alone. -/
theorem putAll_ends_index (h : (putAll g entries).run.Ends t (.ok ())) : ∃ before a urls,
    t = before ++ [indexRead g a, indexWrite g urls entries] ∧ listOf a = .ok urls ∧
      ∀ x ∈ before, ¬ x.1.Changes (indexKey g) := by
  obtain ⟨t₁, t₂, a, urls, rfl, h₁, h₂, ha⟩ := putAll_ends h
  refine ⟨t₁ ++ t₂, a, urls, (List.append_assoc ..).symm, ha, fun x hx hc => ?_⟩
  rcases List.mem_append.1 hx with hx | hx
  · have hset : Within (fun key => ∃ url, key = entryKey g url) (setAll (texts g entries)).run :=
      setAll_within fun p hp => fst_mem_texts hp
    obtain ⟨url, he⟩ := hset.exchanges h₁ x hx _ hc
    exact entryKey_ne_indexKey_self g url he.symm
  · have hopen : Within (fun key => key = generationsKey) (openGeneration g).run := openGeneration_within rfl
    exact indexKey_ne_generationsKey g (hopen.exchanges h₂ x hx _ hc)

/-! ### Two calls -/

/-- Two calls that put entries into one generation take turns at a store, and both succeed. -/
structure Interleaved (c : Contents) (g : String) (es : Side → List (String × Entry)) (H : History) (c' : Contents) :
    Prop where
  ends : ∀ i, (perform (.putAll g (es i))).Ends (part i H) (.ok ())
  follows : Follows c (H.map Prod.snd) c'

/-- The index that `i` sets is lost: `j` has read the index before, and sets it behind. -/
def Overtakes (g : String) (H : History) (j i : Side) : Prop := ∃ H₁ H₂ H₃ H₄ a v w r r',
  H = H₁ ++ (j, ⟨.get (indexKey g), a⟩) :: (H₂ ++ (i, ⟨.set (indexKey g) v, r⟩) ::
    (H₃ ++ (j, ⟨.set (indexKey g) w, r'⟩) :: H₄))

/-- A call that reads the index and sets it while the other instance leaves it alone has read the old one, and leaves
its own. -/
theorem index_of_alone {i : Side} {before : List Exchange} {a : Option Bytes} {urls : List String}
    (hf : Follows c (H.map Prod.snd) c') (hpart : part i H = before ++ [indexRead g a, indexWrite g urls entries])
    (hbefore : ∀ x ∈ before, ¬ x.1.Changes (indexKey g))
    (hother : ∀ k, k ≠ i → ∀ x ∈ part k H, ¬ x.1.Changes (indexKey g)) :
    a = c (indexKey g) ∧ c' (indexKey g) = some (listText (listed urls entries)) := by
  rw [show before ++ [indexRead g a, indexWrite g urls entries] =
    before ++ indexRead g a :: [indexWrite g urls entries] from rfl] at hpart
  obtain ⟨H₁, H₂, rfl, h₁, h₂⟩ := part_split hpart
  obtain ⟨H₃, H₄, rfl, h₃, h₄⟩ := part_split (t := []) h₂
  obtain ⟨d, d', hf₁, hread, hf₂⟩ := hf.split
  obtain ⟨d₁, d₂, hf₃, hwrite, hf₄⟩ := hf₂.split
  have hfirst : d (indexKey g) = c (indexKey g) := by
    refine hf₁.eq_of_parts fun k x hx => ?_
    by_cases hk : k = i
    · subst hk
      exact hbefore x (h₁ ▸ hx)
    · exact hother k hk x (by rw [part_append]; exact List.mem_append_left _ hx)
  have hlast : c' (indexKey g) = d₂ (indexKey g) := by
    refine hf₄.eq_of_parts fun k x hx => ?_
    by_cases hk : k = i
    · subst hk
      rw [h₄] at hx
      cases hx
    · refine hother k hk x ?_
      rw [part_append, part_cons_of_ne (Ne.symm hk), part_append, part_cons_of_ne (Ne.symm hk)]
      exact List.mem_append_right _ (List.mem_append_right _ hx)
  refine ⟨hread.1.trans hfirst, ?_⟩
  rw [hlast, show d₂ = _ from hwrite, Function.update_self]

/-- The last exchange is that of a call that sets the index. Between its reading and its setting stand exchanges of the
other call alone. -/
theorem Interleaved.exists_last (h : Interleaved c g es H c') : ∃ j a urls A B,
    H = A ++ (j, indexRead g a) :: (B ++ [(j, indexWrite g urls (es j))]) ∧ listOf a = .ok urls ∧
      (∀ x ∈ part j A, ¬ x.1.Changes (indexKey g)) ∧ part j B = [] := by
  obtain ⟨H', ⟨j, w⟩, rfl⟩ : ∃ H' w, H = H' ++ [w] := by
    rcases List.eq_nil_or_concat H with rfl | ⟨H', w, hH⟩
    · obtain ⟨before, a, urls, hpart, -⟩ := putAll_ends_index (h.ends .left)
      cases before <;> cases hpart
    · exact ⟨H', w, hH.trans List.concat_eq_append⟩
  obtain ⟨before, a, urls, hpart, ha, hbefore⟩ := putAll_ends_index (h.ends j)
  -- no call ends with another exchange
  obtain ⟨hread, hw⟩ : part j H' = before ++ [indexRead g a] ∧ [w] = [indexWrite g urls (es j)] := by
    rw [part_append, part_cons_self] at hpart
    exact List.append_inj' (hpart.trans (List.append_assoc before [_] [_]).symm) rfl
  cases hw
  obtain ⟨A, B, rfl, rfl, hB⟩ := part_split hread
  exact ⟨j, a, urls, A, B, List.append_assoc .., ha, hbefore, hB⟩

/-- What a call that sets the index last has read: the old index, or, unless the other call was overtaken, the one that
the other call has set. -/
theorem Interleaved.index_read {i j : Side} {a : Option Bytes} {urls : List String} {A B : History} {d : Contents}
    (h : Interleaved c g es (A ++ (j, indexRead g a) :: (B ++ [(j, indexWrite g urls (es j))])) c')
    (hsides : ∀ k, k = j ∨ k = i) (hne : j ≠ i) (hA : ∀ x ∈ part j A, ¬ x.1.Changes (indexKey g))
    (hf : Follows c (A.map Prod.snd) d) :
    d (indexKey g) = c (indexKey g) ∧
        Overtakes g (A ++ (j, indexRead g a) :: (B ++ [(j, indexWrite g urls (es j))])) j i ∨
      ∃ old, listOf (c (indexKey g)) = .ok old ∧ d (indexKey g) = some (listText (listed old (es i))) := by
  obtain ⟨before, a', old, hpart, ha', hbefore⟩ := putAll_ends_index (h.ends i)
  rw [part_append, part_cons_of_ne hne, part_append, part_cons_of_ne hne, show part i [] = [] from rfl,
    List.append_nil] at hpart
  -- the other call has set the index already when `j` reads it, or it sets it in `B`
  rcases List.eq_nil_or_concat (part i B) with hnil | ⟨s, x, hs⟩
  · rw [hnil, List.append_nil] at hpart
    obtain ⟨rfl, hset⟩ := index_of_alone hf hpart hbefore fun k hk => (hsides k).elim (fun he => he ▸ hA) (absurd · hk)
    exact .inr ⟨old, ha', hset⟩
  · rw [List.concat_eq_append] at hs
    rw [hs, ← List.append_assoc] at hpart
    obtain ⟨hpartA, hx⟩ := List.append_inj' (hpart.trans (List.append_assoc before [_] [_]).symm) rfl
    cases hx
    obtain ⟨B₁, B₂, rfl, -, -⟩ := part_split hs
    refine .inl ⟨hf.eq_of_parts fun k => ?_, A, B₁, B₂, [], .ok a, listText (listed old (es i)),
      listText (listed urls (es j)), .ok (), .ok (), by simp [indexRead, indexWrite]⟩
    rcases hsides k with rfl | rfl
    · exact hA
    · intro x hx
      have hmem : x ∈ before ++ [indexRead g a'] := hpartA ▸ List.mem_append_left s hx
      rcases List.mem_append.1 hmem with hx | hx
      · exact hbefore x hx
      · rw [List.mem_singleton.1 hx]
        exact id

/-- The index in the end: it has what it had before, the addresses of one call, and those of the other one unless that
was overtaken. -/
theorem Interleaved.index (h : Interleaved c g es H c') : ∃ j urls urls', listOf (c (indexKey g)) = .ok urls ∧
    listOf (c' (indexKey g)) = .ok urls' ∧ (∀ url ∈ urls, url ∈ urls') ∧
      ∀ i, Overtakes g H j i ∨ ∀ url ∈ (es i).map Prod.fst, url ∈ urls' := by
  obtain ⟨j, a, urls, A, B, rfl, ha, hA, hB⟩ := h.exists_last
  obtain ⟨d, d', hfA, hread, hfB⟩ := h.follows.split
  obtain ⟨d₁, d₂, -, hwrite, hend⟩ := hfB.split
  obtain rfl : c' = d₂ := hend
  have hlast : listOf (c' (indexKey g)) = .ok (listed urls (es j)) := by
    rw [show c' = _ from hwrite, Function.update_self, listOf_listText]
  have hown : ∀ url ∈ (es j).map Prod.fst, url ∈ listed urls (es j) := fun url hu => mem_listed.2 (.inr hu)
  rw [hread.1] at ha
  obtain ⟨i, hne, hsides⟩ := j.exists_other
  rcases h.index_read hsides hne hA hfA with ⟨hsame, hover⟩ | ⟨old, hold, hset⟩
  · refine ⟨j, urls, _, hsame ▸ ha, hlast, fun url hu => mem_listed.2 (.inl hu), fun k => ?_⟩
    rcases hsides k with rfl | rfl
    · exact .inr hown
    · exact .inl hover
  · rw [hset, listOf_listText, Except.ok.injEq] at ha
    subst ha
    refine ⟨j, old, _, hold, hlast, fun url hu => mem_listed.2 (.inl (mem_listed.2 (.inl hu))), fun k => .inr ?_⟩
    rcases hsides k with rfl | rfl
    · exact hown
    · exact fun url hu => mem_listed.2 (.inl (mem_listed.2 (.inr hu)))

/-! ### The list of generations -/

/-- Behind this exchange the generation is listed. -/
def Confirms (g : String) (x : Exchange) : Prop := ∀ d d', Takes d x d' → IsListed g d'

/-- A call that opens a generation finds it listed or lists it. -/
theorem openGeneration_confirms (h : (openGeneration g).run.Ends t (.ok ())) :
    (∃ x ∈ t, Confirms g x) ∧ ∀ x ∈ t, x.1.Changes generationsKey → Confirms g x := by
  rw [openGeneration_eq, ends_attempt] at h
  obtain ⟨t₁, t₂, names, rfl, h₁, h₂⟩ | ⟨e, -, he⟩ := h
  · obtain ⟨e | old, rfl, ha⟩ := readList_ends.1 h₁
    · cases ha
    have hl : listOf old = .ok names := ha.symm
    split at h₂
    · next hg =>
      obtain ⟨rfl, -⟩ := h₂
      have hread : Confirms g ⟨.get generationsKey, .ok old⟩ := by
        rintro d _ ⟨rfl, rfl⟩
        exact isListed_iff.2 ⟨names, hl, hg⟩
      exact ⟨⟨_, List.mem_singleton_self _, hread⟩, fun x hx hc => List.mem_singleton.1 hx ▸ hread⟩
    · obtain rfl := ends_question.1 h₂
      have hset : Confirms g ⟨.set generationsKey (listText (names ++ [g])), .ok ()⟩ := by
        rintro d _ rfl
        exact isListed_iff.2 ⟨_, by rw [Function.update_self, listOf_listText], by simp⟩
      refine ⟨⟨_, by simp, hset⟩, fun x hx hc => ?_⟩
      rcases List.mem_cons.1 hx with rfl | hx
      · cases hc
      · rw [List.mem_singleton.1 hx]
        exact hset
  · cases he

theorem putAll_confirms (h : (putAll g entries).run.Ends t (.ok ())) :
    (∃ x ∈ t, Confirms g x) ∧ ∀ x ∈ t, x.1.Changes generationsKey → Confirms g x := by
  obtain ⟨t₁, t₂, a, urls, rfl, h₁, h₂, -⟩ := putAll_ends h
  obtain ⟨⟨x, hx, hconfirms⟩, hopen⟩ := openGeneration_confirms h₂
  refine ⟨⟨x, List.mem_append_right _ (List.mem_append_left _ hx), hconfirms⟩, fun y hy hc => ?_⟩
  rcases List.mem_append.1 hy with hy | hy
  · have hset : Within (Owns g) (setAll (texts g entries)).run := setAll_within fun p hp => .inr (fst_mem_texts hp)
    exact absurd rfl (hset.exchanges h₁ y hy _ hc).ne_generationsKey
  rcases List.mem_append.1 hy with hy | hy
  · exact hopen y hy hc
  · rcases List.mem_cons.1 hy with rfl | hy
    · cases hc
    · rw [List.mem_singleton.1 hy] at hc
      exact absurd hc (indexKey_ne_generationsKey g)

/-- A generation that was listed at some time stays listed, as long as all changes list it. -/
theorem isListed_of_confirms (h : Follows c t c') (ht : ∀ x ∈ t, x.1.Changes generationsKey → Confirms g x)
    (hc : IsListed g c ∨ ∃ x ∈ t, Confirms g x) : IsListed g c' := by
  induction t generalizing c with
  | nil =>
    obtain rfl : c' = c := h
    exact hc.resolve_right nofun
  | cons x t ih =>
    obtain ⟨d, hx, h⟩ := h
    refine ih h (fun y hy => ht y (List.mem_cons_of_mem _ hy)) ?_
    rcases hc with hc | ⟨y, hy, hconfirms⟩
    · by_cases hch : x.1.Changes generationsKey
      · exact .inl (ht x List.mem_cons_self hch c d hx)
      · rw [isListed_iff] at hc ⊢
        rw [hx.eq_of_not_changes hch]
        exact .inl hc
    · rcases List.mem_cons.1 hy with rfl | hy
      · exact .inl (hconfirms c d hx)
      · exact .inr ⟨y, hy, hconfirms⟩

theorem Interleaved.isListed (h : Interleaved c g es H c') : IsListed g c' := by
  refine isListed_of_confirms h.follows (fun x hx => ?_) ?_
  · obtain ⟨y, hy, rfl⟩ := List.mem_map.1 hx
    exact (putAll_confirms (h.ends y.1)).2 y.2 (mem_part hy)
  · obtain ⟨x, hx, hconfirms⟩ := (putAll_confirms (h.ends .left)).1
    exact .inr ⟨x, mem_of_mem_part hx, hconfirms⟩

/-! ### What is stored -/

/-- What is stored was stored before, or was put by one of the calls. -/
theorem Interleaved.stored (h : Interleaved c g es H c') (hs : IsStored g c' url) :
    IsStored g c url ∨ ∃ i, url ∈ (es i).map Prod.fst := by
  by_contra hno
  rw [not_or, not_exists] at hno
  have hsame : c' (entryKey g url) = c (entryKey g url) := by
    refine h.follows.eq_of_parts fun i x hx hc => ?_
    rcases (perform_within _).exchanges (h.ends i) x hx _ hc with hk | hk | ⟨u, hu, hk⟩
    · exact entryKey_ne_generationsKey g url hk
    · exact entryKey_ne_indexKey_self g url hk
    · exact hno.2 i (entryKey_inj.1 hk ▸ hu)
  rw [isStored_iff, hsame, ← isStored_iff] at hs
  exact hno.1 hs

/-- Deleting a generation leaves nothing that was listed. -/
theorem deleteGeneration_leaves {urls : List String} (hg : IsListed g c) (hu : listOf (c (indexKey g)) = .ok urls) :
    answerOf c (.deleteGeneration g) = .ok true ∧
      ∀ url, IsStored g (after c (.deleteGeneration g)) url → IsStored g c url ∧ ¬ IsUrl g c url := by
  obtain ⟨names, hl, hmem⟩ := isListed_iff.1 hg
  have hrun : (perform (.deleteGeneration g)).run Contents.answer c = (.ok true, deleted c names urls g) :=
    run_deleteGeneration hl hmem hu
  have hafter : after c (.deleteGeneration g) = deleted c names urls g := congrArg Prod.snd hrun
  refine ⟨congrArg Prod.fst hrun, fun url hs => ?_⟩
  rw [isStored_iff, hafter, deleted_entryKey] at hs
  split at hs
  · exact absurd rfl hs
  · next hno =>
    refine ⟨isStored_iff.2 hs, fun hurl => ?_⟩
    obtain ⟨urls', hu', hin⟩ := isUrl_iff.1 hurl
    rw [hu, Except.ok.injEq] at hu'
    exact hno (hu' ▸ hin)

/-- Two calls that succeed, started where all that is stored is listed: what is stored then is listed, and is gone when
the generation is deleted, unless it was put by a call that was overtaken by the other one. -/
theorem Interleaved.isUrl_or_overtakes (h : Interleaved c g es H c') (hc : ∀ url, IsStored g c url → IsUrl g c url) :
    (∀ url, IsStored g c' url → IsUrl g c' url ∨ ∃ i j, Overtakes g H j i ∧ url ∈ (es i).map Prod.fst) ∧
      answerOf c' (.deleteGeneration g) = .ok true ∧
        ∀ url, IsStored g (after c' (.deleteGeneration g)) url →
          ∃ i j, Overtakes g H j i ∧ url ∈ (es i).map Prod.fst := by
  obtain ⟨j, urls, urls', hu, hu', hold, hput⟩ := h.index
  have hlisted : ∀ url, IsStored g c' url →
      IsUrl g c' url ∨ ∃ i j, Overtakes g H j i ∧ url ∈ (es i).map Prod.fst := by
    intro url hs
    rcases h.stored hs with hs | ⟨i, hi⟩
    · obtain ⟨urls₀, hu₀, hin⟩ := isUrl_iff.1 (hc url hs)
      rw [hu, Except.ok.injEq] at hu₀
      exact .inl (isUrl_iff.2 ⟨urls', hu', hold url (hu₀ ▸ hin)⟩)
    · rcases hput i with hover | hin
      · exact .inr ⟨i, j, hover, hi⟩
      · exact .inl (isUrl_iff.2 ⟨urls', hu', hin url hi⟩)
  obtain ⟨hanswer, hleft⟩ := deleteGeneration_leaves h.isListed hu'
  refine ⟨hlisted, hanswer, fun url hs => ?_⟩
  obtain ⟨hstored, hno⟩ := hleft url hs
  exact (hlisted url hstored).resolve_left hno

/-- Two calls one after the other. -/
theorem interleaved_in_turn (es : Side → List (String × Entry)) (hl : answerOf c (.putAll g (es .left)) = .ok ())
    (hr : answerOf (after c (.putAll g (es .left))) (.putAll g (es .right)) = .ok ()) :
    Interleaved c g es
      (((perform (.putAll g (es .left))).exchanges Contents.answer c).map (.left, ·) ++
        ((perform (.putAll g (es .right))).exchanges Contents.answer (after c (.putAll g (es .left)))).map (.right, ·))
      (after (after c (.putAll g (es .left))) (.putAll g (es .right))) := by
  have hleft := trial_after c (.putAll g (es .left))
  have hright := trial_after (after c (.putAll g (es .left))) (.putAll g (es .right))
  have hne : Side.left ≠ Side.right := nofun
  refine ⟨fun i => ?_, ?_⟩
  · rw [part_append]
    cases i with
    | left =>
      rw [part_map_self, part_map_of_ne hne.symm, List.append_nil]
      exact hl ▸ hleft.ends
    | right =>
      rw [part_map_of_ne hne, part_map_self, List.nil_append]
      exact hr ▸ hright.ends
  · rw [List.map_append, map_snd_map, map_snd_map]
    exact follows_append.2 ⟨_, hleft.follows, hright.follows⟩

def oneEach : Side → List (String × Entry)
  | .left => [("a", .of 200 [] .epoch)]
  | .right => [("b", .of 200 [] .epoch)]

theorem isUrl_or_overtakes_in_turn :
    let c := after (after (fun _ => none) (.putAll "v1" (oneEach .left))) (.putAll "v1" (oneEach .right))
    ∃ H, Interleaved (fun _ => none) "v1" oneEach H c ∧
      ((∀ url, IsStored "v1" c url → IsUrl "v1" c url ∨ ∃ i j, Overtakes "v1" H j i ∧ url ∈ (oneEach i).map Prod.fst) ∧
        answerOf c (.deleteGeneration "v1") = .ok true ∧
          ∀ url, IsStored "v1" (after c (.deleteGeneration "v1")) url →
            ∃ i j, Overtakes "v1" H j i ∧ url ∈ (oneEach i).map Prod.fst) := by
  have hleft : (perform (.putAll "v1" (oneEach .left))).run Contents.answer (fun _ => none) =
      (.ok (), filled (fun _ => none) [] [] "v1" (oneEach .left)) := run_putAll rfl rfl _
  have hafter : after (fun _ => none) (.putAll "v1" (oneEach .left)) =
      filled (fun _ => none) [] [] "v1" (oneEach .left) := congrArg Prod.snd hleft
  have hnames : listOf (after (fun _ => none) (.putAll "v1" (oneEach .left)) generationsKey) = .ok ["v1"] := by
    rw [hafter, filled_generationsKey, opened, if_neg List.not_mem_nil, Function.update_self, listOf_listText]
    rfl
  have hurls : listOf (after (fun _ => none) (.putAll "v1" (oneEach .left)) (indexKey "v1")) = .ok ["a"] := by
    rw [hafter, filled_indexKey, listOf_listText]
    rfl
  have h := interleaved_in_turn oneEach (congrArg Prod.fst hleft) (congrArg Prod.fst (run_putAll hnames hurls _))
  exact ⟨_, h, h.isUrl_or_overtakes fun url hs => absurd rfl (isStored_iff.1 hs)⟩

/-- Two calls that take turns in such a way that both read the index before one sets it. -/
def crossed : History :=
  [(.left, ⟨.get (entryKey "v1" "a"), .ok none⟩),
    (.left, ⟨.set (entryKey "v1" "a") (Text.utf8 (Entry.of 200 [] .epoch).json), .ok ()⟩),
    (.right, ⟨.get (entryKey "v1" "b"), .ok none⟩),
    (.right, ⟨.set (entryKey "v1" "b") (Text.utf8 (Entry.of 200 [] .epoch).json), .ok ()⟩),
    (.left, ⟨.get generationsKey, .ok none⟩), (.right, ⟨.get generationsKey, .ok none⟩),
    (.left, ⟨.set generationsKey (listText ["v1"]), .ok ()⟩), (.right, ⟨.set generationsKey (listText ["v1"]), .ok ()⟩),
    (.left, indexRead "v1" none), (.right, indexRead "v1" none),
    (.left, indexWrite "v1" [] (oneEach .left)), (.right, indexWrite "v1" [] (oneEach .right))]

def crossedContents : Contents := crossed.foldl (fun c x => (Contents.answer x.2.1 c).2) fun _ => none

theorem interleaved_crossed : Interleaved (fun _ => none) "v1" oneEach crossed crossedContents where
  ends i := by
    cases i with
    | left => exact ⟨_, _, rfl, _, _, rfl, _, _, rfl, _, _, rfl, _, _, rfl, _, _, rfl, rfl, rfl⟩
    | right => exact ⟨_, _, rfl, _, _, rfl, _, _, rfl, _, _, rfl, _, _, rfl, _, _, rfl, rfl, rfl⟩
  follows := ⟨_, ⟨rfl, rfl⟩, _, rfl, _, ⟨rfl, rfl⟩, _, rfl, _, ⟨rfl, rfl⟩, _, ⟨rfl, rfl⟩, _, rfl, _, rfl,
    _, ⟨rfl, rfl⟩, _, ⟨rfl, rfl⟩, _, rfl, _, rfl, rfl⟩

/-- An entry that is stored, not listed, and still there when its generation was deleted. -/
theorem isStored_of_crossed : ∃ c es H c', (∀ url, IsStored "v1" c url → IsUrl "v1" c url) ∧
    Interleaved c "v1" es H c' ∧ answerOf c' (.get "v1" "a") = .ok (some (.of 200 [] .epoch)) ∧ ¬ IsUrl "v1" c' "a" ∧
      IsStored "v1" (after c' (.deleteGeneration "v1")) "a" := by
  have hentry : crossedContents (entryKey "v1" "a") = some (Text.utf8 (Entry.of 200 [] .epoch).json) := rfl
  have hnames : listOf (crossedContents generationsKey) = .ok ["v1"] := listOf_listText ["v1"]
  have hurls : listOf (crossedContents (indexKey "v1")) = .ok ["b"] := listOf_listText ["b"]
  have hafter : after crossedContents (.deleteGeneration "v1") = deleted crossedContents ["v1"] ["b"] "v1" :=
    congrArg Prod.snd (run_deleteGeneration hnames (List.mem_singleton_self _) hurls)
  refine ⟨fun _ => none, oneEach, crossed, crossedContents, fun url hs => ?_, interleaved_crossed, ?_, ?_, ?_⟩
  · exact absurd rfl (isStored_iff.1 hs)
  · rw [answerOf_get, hentry, entryOf_json]
  · rw [isUrl_iff, hurls]
    simp
  · rw [isStored_iff, hafter, deleted_entryKey, if_neg (by decide), hentry]
    exact Option.some_ne_none _

end Persistent
end EdgeWorker.Cache
