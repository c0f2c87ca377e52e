import EdgeWorker.Proofs.Url.Reader
import Mathlib.Data.List.Infix

/-!
How the written form of an address ends. One that was read ends in no blank, unless a fragment follows.

* `Ends`, `Clean` — texts whose last character, or every character, is no blank;
* `Closed u` — the written form of `u` ends so where there is no fragment;
* `closed_of_read` — one lemma for each way to read an address.
-/

namespace EdgeWorker.Url

open EdgeWorker.Text

variable {base u : Url} {scheme text : String} {p : Parts} {cs ds rest : List Char} {c : Char} {inSet : Char → Bool}
  {ss : List String} {file : Bool}

/-! ### Texts without blanks at the end -/

/-- No character is a blank. -/
def Clean (cs : List Char) : Prop := ∀ c ∈ cs, isOuterBlank c = false

/-- The last character is no blank. -/
def Ends (cs : List Char) : Prop := ∃ c ∈ cs.getLast?, isOuterBlank c = false

theorem Ends.append (h : Ends ds) (cs : List Char) : Ends (cs ++ ds) := by
  obtain ⟨c, hc, hblank⟩ := h
  refine ⟨c, ?_, hblank⟩
  rw [List.getLast?_append, Option.mem_def.1 hc]
  rfl

theorem Ends.append_clean (h : Ends cs) (hds : Clean ds) : Ends (cs ++ ds) := by
  rcases List.eq_nil_or_concat' ds with rfl | ⟨ds, d, rfl⟩
  · rwa [List.append_nil]
  · exact Ends.append ⟨d, by simp, hds d (by simp)⟩ cs

theorem ends_of_clean (h : Clean cs) (hne : cs ≠ []) : Ends cs :=
  ⟨cs.getLast hne, List.getLast?_eq_some_getLast hne, h _ (List.getLast_mem hne)⟩

theorem ends_singleton (h : isOuterBlank c = false) : Ends [c] := ⟨c, rfl, h⟩

theorem not_isOuterBlank_of_le (h : 0x20 < c.toNat) : isOuterBlank c = false := by
  unfold isOuterBlank
  rw [decide_eq_false_iff_not]
  intro hc
  have hnat : c.toNat ≤ ' '.toNat := hc
  have hspace : ' '.toNat = 0x20 := rfl
  omega

theorem clean_percent (b : UInt8) : Clean (percent b) := by
  have hletter : ∀ n < 16, isOuterBlank (hexLetter n) = false := by decide
  have hlt : b.toNat < 256 := b.toNat_lt
  unfold percent
  intro c hc
  simp only [List.mem_cons, List.not_mem_nil, or_false] at hc
  rcases hc with rfl | rfl | rfl
  · rfl
  · exact hletter _ (by omega)
  · exact hletter _ (by omega)

/-- Where all blanks are encoded, none is left. -/
theorem clean_encode (hset : ∀ c ∈ cs, isOuterBlank c → inSet c) : Clean (encode inSet cs) := by
  intro c hc
  obtain ⟨d, hmem, hd⟩ := List.mem_flatMap.1 hc
  split at hd
  · obtain ⟨b, -, hb⟩ := List.mem_flatMap.1 hd
    exact clean_percent b c hb
  · next hfree =>
    cases List.mem_singleton.1 hd
    exact Bool.eq_false_iff.2 fun hblank => hfree (hset c hmem hblank)

theorem inControlSet_or_of_blank (h : isOuterBlank c) : inControlSet c ∨ c = ' ' := by
  have hle : c.toNat ≤ 0x20 := of_decide_eq_true h
  rcases Nat.lt_or_eq_of_le hle with hlt | heq
  · exact .inl (by simp [inControlSet, hlt])
  · exact .inr (Char.toNat_inj.1 heq)

theorem inPathSet_of_blank (h : isOuterBlank c) : inPathSet c := by
  rcases inControlSet_or_of_blank h with h | rfl
  · simp [inPathSet, inFragmentSet, h]
  · rfl

theorem inQuerySet_of_blank (h : isOuterBlank c) : inQuerySet c := by
  rcases inControlSet_or_of_blank h with h | rfl
  · simp [inQuerySet, h]
  · rfl

theorem clean_queryText {q : String} (h : q ∈ p.queryText scheme) : Clean q.toList := by
  obtain ⟨cs, -, rfl⟩ := Option.map_eq_some_iff.1 h
  rw [String.toList_ofList]
  refine clean_encode fun c _ hc => ?_
  split
  · rw [inSpecialQuerySet, inQuerySet_of_blank hc, Bool.true_or]
  · exact inQuerySet_of_blank hc

/-- The last character of an encoded text that ends in no blank is none either. -/
theorem Ends.encode (h : Ends cs) : Ends (encode inControlSet cs) := by
  rcases List.eq_nil_or_concat' cs with rfl | ⟨cs, d, rfl⟩
  · exact absurd h (by rintro ⟨c, hc, -⟩; cases hc)
  · obtain ⟨c, hc, hblank⟩ := h
    obtain rfl : d = c := by simpa using hc
    unfold Url.encode
    rw [List.flatMap_append, List.flatMap_singleton]
    refine Ends.append ?_ _
    split
    · obtain ⟨b, bs, hb⟩ := List.exists_cons_of_ne_nil (String.utf8EncodeChar_ne_nil (c := d))
      refine ends_of_clean (fun c hc => ?_) (by simp [utf8, hb, percent])
      obtain ⟨b, -, hb⟩ := List.mem_flatMap.1 hc
      exact clean_percent b c hb
    · exact ends_singleton hblank

/-! ### Paths -/

theorem not_blank_of_isLetter (h : Ascii.isLetter c) : isOuterBlank c = false := by
  refine not_isOuterBlank_of_le ?_
  simp only [Ascii.isLetter, Ascii.isLower, Ascii.isUpper, Char.le_def, UInt32.le_iff_toNat_le, Bool.or_eq_true,
    Bool.and_eq_true, decide_eq_true_eq] at h
  have ha : 'a'.val.toNat = 97 := rfl
  have hA : 'A'.val.toNat = 65 := rfl
  have hc : c.toNat = c.val.toNat := rfl
  omega

theorem clean_segment (file : Bool) (ss : List String) (piece : List Char) : Clean (segment file ss piece).toList := by
  unfold segment
  split
  · next c more hdrive =>
    rw [String.toList_ofList]
    have hletter : Ascii.isLetter c := by
      simp only [Bool.and_eq_true] at hdrive
      have h := hdrive.2
      unfold isDrive at h
      split at h
      · next he =>
        cases he
        rw [Bool.and_eq_true] at h
        exact h.1
      · cases h
    intro d hd
    simp only [List.mem_cons, List.not_mem_nil, or_false] at hd
    rcases hd with rfl | rfl
    · exact not_blank_of_isLetter hletter
    · rfl
  · rw [String.toList_ofList]
    exact clean_encode fun c _ hc => inPathSet_of_blank hc

/-- The last segment of a path has no blank. -/
def EndsClean (ss : List String) : Prop := ∃ before last, ss = before ++ [last] ∧ Clean last.toList

theorem endsClean_follow (file : Bool) (ss : List String) {pieces : List (List Char)} (h : pieces ≠ []) :
    EndsClean (follow file ss pieces) := by
  fun_induction follow file ss pieces with
  | case1 => exact absurd rfl h
  | case2 ss piece => exact ⟨_, "", rfl, nofun⟩
  | case3 ss piece => exact ⟨_, "", rfl, nofun⟩
  | case4 ss piece => exact ⟨_, _, rfl, clean_segment file ss piece⟩
  | case5 ss piece rest hne _ ih => exact ih hne
  | case6 ss piece rest hne _ _ ih => exact ih hne
  | case7 ss piece rest hne _ _ ih => exact ih hne

theorem pieces_ne_nil (web : Bool) (cs : List Char) : pieces web cs ≠ [] := by
  cases cs with
  | nil => nofun
  | cons c cs =>
    unfold pieces
    split
    · nofun
    · split <;> nofun

theorem EndsClean.dropEmpty (h : EndsClean ss) : EndsClean (dropEmpty ss) := by
  fun_induction Url.dropEmpty ss with
  | case1 s rest ih =>
    refine ih ?_
    obtain ⟨before, last, he, hlast⟩ := h
    cases before with
    | nil => cases he
    | cons b before => exact ⟨before, last, (List.cons.inj he).2, hlast⟩
  | case2 => exact h

theorem endsClean_pathFrom (scheme : String) (ss : List String) (cs : List Char) : EndsClean (pathFrom scheme ss cs) := by
  have h := endsClean_follow (scheme == "file") ss (pieces_ne_nil (isWeb scheme) cs)
  unfold pathFrom
  dsimp only
  split
  · exact h.dropEmpty
  · exact h

theorem startPath_eq (scheme : String) (cs : List Char) : startPath scheme cs = [] ∧ isWeb scheme = false ∨
    EndsClean (startPath scheme cs) := by
  unfold startPath
  cases cs with
  | nil =>
    cases isWeb scheme with
    | false => exact .inl ⟨rfl, rfl⟩
    | true => exact .inr ⟨[], "", rfl, nofun⟩
  | cons c cs =>
    right
    dsimp only
    split
    · exact endsClean_pathFrom scheme [] cs
    · exact endsClean_pathFrom scheme [] (c :: cs)

theorem EndsClean.ends_text (h : EndsClean ss) : Ends (Path.segments ss).text.toList := by
  obtain ⟨before, last, rfl, hlast⟩ := h
  have htext : (Path.segments (before ++ [last])).text.toList =
      (before.map ("/" ++ ·)).flatMap String.toList ++ '/' :: last.toList := by
    simp [Path.text]
  rw [htext]
  exact Ends.append ((ends_singleton rfl).append_clean hlast) _

/-! ### Hosts -/

theorem clean_toString (n : Nat) : Clean (toString n).toList := by
  intro c hc
  have hdigit : c.isDigit := Nat.isDigit_of_mem_toDigits (b := 10) (n := n) (by decide) (by decide) (by simpa using hc)
  exact not_isOuterBlank_of_le (Nat.lt_of_lt_of_le (by decide) (Char.isDigit_iff_toNat.1 hdigit).1)

/-- A host that is written ends in no blank. -/
theorem ends_otherHost {host : List Char} (h : otherHost cs = .ok host) (hne : host ≠ []) : Ends host := by
  unfold otherHost at h
  split at h
  · unfold bracketed at h
    split at h
    · split at h
      · cases h
        exact (ends_singleton rfl).append _
      · cases h
    · cases h
  · split at h
    · cases h
    · next hfree =>
      cases h
      refine ends_of_clean (clean_encode fun c hc hblank => (inControlSet_or_of_blank hblank).resolve_right ?_) hne
      rintro rfl
      exact hfree (List.any_eq_true.2 ⟨' ', hc, rfl⟩)

/-- An authority ends in no blank where its host does not, and neither does an empty one. -/
theorem ends_authority {a : Authority} (h : a.host = "" ∧ a.user = "" ∧ a.password = none ∨ Ends a.host.toList) :
    Ends ("//" ++ a.text).toList := by
  obtain ⟨user, password, host, port⟩ := a
  unfold Authority.text
  cases port with
  | some n =>
    have hport : Clean (":" ++ toString n).toList := by
      rw [String.toList_append]
      exact fun c hc => (List.mem_append.1 hc).elim (fun hc => by cases List.mem_singleton.1 hc; rfl) (clean_toString n c)
    rw [← String.append_assoc, String.toList_append]
    exact (ends_of_clean hport (by simp)).append _
  | none =>
    rcases h with ⟨rfl, rfl, rfl⟩ | h
    · exact ⟨'/', by decide, rfl⟩
    · simp only [String.toList_append, String.toList_empty, List.append_nil]
      exact (h.append _).append _

/-! ### Addresses -/

/-- The written form ends in no blank where there is no fragment. -/
structure Closed (u : Url) : Prop where
  query : ∀ q ∈ u.query, Clean q.toList
  front : u.query = none → u.fragment = none → Ends (u.front ++ u.path.text).toList

theorem Closed.ends (h : Closed u) (hf : u.fragment = none) : Ends u.text.toList := by
  obtain ⟨scheme, authority, path, query, fragment⟩ := u
  obtain rfl : fragment = none := hf
  cases query with
  | none => simpa [text, behind] using h.front rfl rfl
  | some q =>
    have hq : Clean ("?" ++ q).toList := by
      rw [String.toList_append]
      exact fun c hc => (List.mem_append.1 hc).elim (fun hc => by cases List.mem_singleton.1 hc; rfl) (h.query q rfl c)
    simp only [text, behind, String.append_empty]
    rw [String.toList_append]
    exact (ends_of_clean hq (by simp)).append _

/-- An address whose last segment has no blank, with the query of a text or none. -/
theorem closed_of_segments (hpath : u.path = .segments ss) (hss : EndsClean ss) (hquery : ∀ q ∈ u.query, Clean q.toList) :
    Closed u where
  query := hquery
  front _ _ := by
    rw [String.toList_append, hpath]
    exact hss.ends_text.append _

/-- An address with an authority is put together of a host, a port and a path. -/
theorem eq_of_withAuthority (h : withAuthority scheme p = .ok u) : ∃ place host port rest user password path,
    hostAndPort scheme place = .ok (host, port, rest) ∧ (host = [] → user = "" ∧ password = none) ∧
      u = ⟨scheme, some ⟨user, password, String.ofList host, port⟩, .segments (startPath scheme path),
        p.queryText scheme, p.fragmentText⟩ := by
  unfold withAuthority at h
  dsimp only at h
  -- with a user or without one it goes on alike
  split at h
  all_goals
    dsimp only at h
    split at h
    · cases h
    · split at h
      · cases h
      · next hhost =>
        split at h
        · cases h
        · next hplace =>
          cases h
          exact ⟨_, _, _, _, _, _, _, hhost, fun he => by simpa [he] using hplace, rfl⟩

/-- Outside of the web the host of an address is empty or ends in no blank. -/
theorem ends_of_hostAndPort (hweb : isWeb scheme = false) {host rest : List Char} {port : Option Nat}
    (h : hostAndPort scheme cs = .ok (host, port, rest)) (hne : host ≠ []) : Ends host := by
  unfold hostAndPort at h
  simp only [hweb] at h
  split at h
  · cases h
  · split at h
    · cases h
    · next hother =>
      split at h
      · cases h
      · cases h
        exact ends_otherHost hother hne

theorem closed_of_withAuthority (h : withAuthority scheme p = .ok u) : Closed u := by
  obtain ⟨place, host, port, rest, user, password, path, hplace, hnone, rfl⟩ := eq_of_withAuthority h
  rcases startPath_eq scheme path with ⟨hpath, hweb⟩ | hpath
  · -- without a path the host or the port is last
    refine ⟨fun q hq => clean_queryText hq, fun _ _ => ?_⟩
    have hauthority : Ends ("//" ++ Authority.text ⟨user, password, String.ofList host, port⟩).toList := by
      refine ends_authority ?_
      by_cases hhost : host = []
      · exact .inl ⟨by rw [hhost], hnone hhost⟩
      · exact .inr (by rw [String.toList_ofList]; exact ends_of_hostAndPort hweb hplace hhost)
    rw [hpath]
    simp only [front, Path.text, List.map_nil, String.join_nil, String.append_empty]
    rw [String.toList_append]
    exact hauthority.append _
  · exact closed_of_segments rfl hpath fun q hq => clean_queryText hq

/-- With another query and another fragment an address is closed as before, if it had neither or has a query now. -/
theorem Closed.withQuery (h : Closed u) (hf : u.fragment = none) (query fragment : Option String)
    (hq : ∀ q ∈ query, Clean q.toList) : Closed { u with query := query.or u.query, fragment := fragment } where
  query q hmem := by
    cases query with
    | none => exact h.query q hmem
    | some q' => exact hq q hmem
  front hnone _ := by
    cases query with
    | none => exact h.front hnone hf
    | some q' => cases hnone

theorem Parts.queryText_or (p : Parts) (scheme : String) (query : Option String) :
    (if p.query.isSome then p.queryText scheme else query) = (p.queryText scheme).or query := by
  unfold queryText
  cases p.query <;> rfl

/-- The address itself, with the query of a text if it has one. -/
theorem Closed.itself (h : Closed u) (hf : u.fragment = none) (p : Parts) (scheme : String) :
    Closed { u with
      query := if p.query.isSome then p.queryText scheme else u.query
      fragment := p.fragmentText } := by
  rw [p.queryText_or]
  exact h.withQuery hf _ _ fun q hq => clean_queryText hq

theorem closed_of_readRelative (hb : Closed base) (hf : base.fragment = none) (h : readRelative base p = .ok u) : Closed u := by
  have hpath {path : List String} (hp : EndsClean path) :
      Closed { base with path := .segments path, query := p.queryText base.scheme, fragment := p.fragmentText } :=
    closed_of_segments rfl hp fun q hq => clean_queryText hq
  unfold readRelative at h
  dsimp only at h
  split at h
  · cases h
    exact hb.itself hf p _
  · split at h
    · split at h
      · exact closed_of_withAuthority h
      · split at h
        · exact closed_of_withAuthority h
        · cases h
          exact hpath (endsClean_pathFrom _ _ _)
      · cases h
        exact hpath (endsClean_pathFrom _ _ _)
    · cases h
      exact hpath (endsClean_pathFrom _ _ _)

/-! ### Files -/

theorem closed_fileUrl (host : String) {path : List String} (hp : EndsClean path) (p : Parts) : Closed (fileUrl host path p) :=
  closed_of_segments rfl hp fun _ hq => clean_queryText hq

theorem endsClean_startPath (hweb : isWeb scheme) (cs : List Char) : EndsClean (startPath scheme cs) :=
  (startPath_eq scheme cs).resolve_left fun h => by simp [hweb] at h

theorem closed_of_fileHost (h : fileHost p cs = .ok u) : Closed u := by
  unfold fileHost at h
  dsimp only at h
  split at h
  · cases h
    exact closed_fileUrl _ (endsClean_pathFrom _ _ _) p
  · split at h
    · cases h
      exact closed_fileUrl _ (endsClean_startPath rfl _) p
    · split at h
      · cases h
      · cases h
        exact closed_fileUrl _ (endsClean_startPath rfl _) p

theorem closed_of_readFile {base : Option Url} (hb : ∀ b ∈ base, Closed b ∧ b.fragment = none)
    (h : readFile base p = .ok u) : Closed u := by
  have hone {a : Char} {rest : List Char} (h : readFile.readOne base p a rest = .ok u) : Closed u := by
    unfold readFile.readOne at h
    repeat' split at h
    all_goals
      cases h
      exact closed_fileUrl _ (endsClean_pathFrom _ _ _) p
  unfold readFile at h
  split at h
  · split at h
    · exact closed_of_fileHost h
    · exact hone h
  · exact hone h
  · split at h
    · next b =>
      cases h
      exact (hb b rfl).1.itself (hb b rfl).2 p _
    · cases h
      exact closed_fileUrl _ ⟨[], "", rfl, nofun⟩ p

/-! ### Texts -/

/-- What is read of a text is nothing, or ends in no blank. -/
theorem ends_unbroken_trimBy (cs : List Char) :
    unbroken (trimBy isOuterBlank cs) = [] ∨ Ends (unbroken (trimBy isOuterBlank cs)) := by
  unfold trimBy dropEnd
  cases h : (cs.dropWhile isOuterBlank).reverse.dropWhile isOuterBlank with
  | nil => exact .inl rfl
  | cons c ds =>
    right
    have hblank : isOuterBlank c = false := by
      have hhead := List.head?_dropWhile_not isOuterBlank (cs.dropWhile isOuterBlank).reverse
      rw [h] at hhead
      simpa using hhead
    -- line breaks are blanks, so it stays
    have hbreak : isLineBreak c = false := by
      refine Bool.eq_false_iff.2 fun hc => ?_
      have hbreaks : c = '\t' ∨ c = '\n' ∨ c = '\r' := by simpa [isLineBreak, or_assoc] using hc
      rcases hbreaks with rfl | rfl | rfl <;> exact absurd hblank (by decide)
    have hlast : unbroken (c :: ds).reverse = unbroken ds.reverse ++ [c] := by
      simp [unbroken, hbreak]
    rw [hlast]
    exact (ends_singleton hblank).append _

theorem Ends.of_append (h : Ends (cs ++ ds)) (hne : ds ≠ []) : Ends ds := by
  obtain ⟨c, hc, hblank⟩ := h
  refine ⟨c, ?_, hblank⟩
  rw [List.getLast?_append] at hc
  rwa [List.getLast?_eq_some_getLast hne, Option.some_or, ← List.getLast?_eq_some_getLast hne] at hc

/-- An address whose path is one text. -/
theorem closed_flat (hend : cs = [] ∨ Ends cs) :
    Closed ⟨scheme, none, .flat (String.ofList (encode inControlSet (Parts.of cs).body)), (Parts.of cs).queryText scheme,
      (Parts.of cs).fragmentText⟩ where
  query _ hq := clean_queryText hq
  front hq hf := by
    have hnone : (Parts.of cs).body = cs :=
      Parts.body_of (by simpa [Parts.queryText] using hq) (by simpa [Parts.fragmentText] using hf)
    rw [hnone]
    have htext : (scheme ++ ":" ++ "" ++ String.ofList (encode inControlSet cs)).toList =
        scheme.toList ++ [':'] ++ encode inControlSet cs := by simp
    refine htext ▸ ?_
    rcases hend with rfl | hend
    · exact ((ends_singleton rfl).append _).append_clean nofun
    · exact hend.encode.append _

theorem closed_of_readAbsolute {base : Option Url} (hb : ∀ b ∈ base, Closed b ∧ b.fragment = none)
    (hend : cs = [] ∨ Ends cs) (h : readAbsolute base scheme (Parts.of cs) = .ok u) : Closed u := by
  have hfilter {q : Url → Bool} : ∀ b ∈ base.filter q, Closed b ∧ b.fragment = none := fun b hmem =>
    hb b (Option.filter_eq_some_iff.1 hmem).1
  unfold readAbsolute at h
  dsimp only at h
  split at h
  · exact closed_of_readFile hfilter h
  · split at h
    · split at h
      · next b hbase =>
        split at h
        · exact closed_of_readRelative (hfilter b hbase).1 (hfilter b hbase).2 h
        · exact closed_of_withAuthority h
      · exact closed_of_withAuthority h
    · split at h
      · exact closed_of_withAuthority h
      · cases h
        exact closed_of_segments rfl (endsClean_pathFrom _ _ _) fun _ hq => clean_queryText hq
      · cases h
        exact closed_flat hend

/-- The written form of an address that was read from a closed one is closed. -/
theorem closed_of_read (hb : Closed base) (hf : base.fragment = none) (h : read (some base) text = .ok u) : Closed u := by
  have hbase : ∀ b ∈ some base, Closed b ∧ b.fragment = none := by
    rintro b ⟨⟩
    exact ⟨hb, hf⟩
  unfold read at h
  dsimp only at h
  split at h
  · next scheme rest hcut =>
    obtain ⟨first, more, hcs, -⟩ := eq_of_cutScheme hcut
    refine closed_of_readAbsolute hbase ?_ h
    rcases ends_unbroken_trimBy text.toList with hnil | hend
    · simp [hnil] at hcs
    · rw [hcs] at hend
      by_cases hrest : rest = []
      · exact .inl hrest
      · have hcolon : Ends ([':'] ++ rest) := hend.of_append (by simp)
        exact .inr (hcolon.of_append hrest)
  · cases h
  · next b heq =>
    cases heq
    split at h
    · split at h
      · cases h
        exact ⟨hb.query, fun hq _ => hb.front hq hf⟩
      · cases h
    · split at h
      · exact closed_of_readFile hbase h
      · exact closed_of_readRelative hb hf h

end EdgeWorker.Url
