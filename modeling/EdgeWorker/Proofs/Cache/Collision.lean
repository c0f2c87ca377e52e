import EdgeWorker.Proofs.Cache.Marker

/-!
The texts that lead to the key of the mark of a complete generation after all, and what becomes of marks when such a
text is the path of a resource.

* `namesMark text` — blanks around it and line breaks in it apart, the text is the mark, its scheme in letters of any
  case, with a fragment or nothing behind it;
* `exists_resolve_marker` — in every scope, just these texts resolve to an address with the key of the mark;
* `ensures_install_marks`, `ensures_add_marks` — so a generation that is filled with such a path is marked.
-/

namespace EdgeWorker

open EdgeWorker.Text EdgeWorker.Cache

namespace Cache

variable {cs rest : List Char} {text : String}

/-- Blanks around it and line breaks in it apart, the text is the mark, its scheme in letters of any case, with a
fragment or nothing behind it. -/
def namesMark (text : String) : Bool :=
  let cs := Url.unbroken (trimBy Url.isOuterBlank text.toList)
  (cs.take 2).map Ascii.toLower == "hx".toList &&
    (cs.drop 2 == ":ready".toList || ":ready#".toList.isPrefixOf (cs.drop 2))

theorem namesMark_iff : namesMark text ↔ ∃ scheme rest,
    Url.unbroken (trimBy Url.isOuterBlank text.toList) = scheme ++ ":ready".toList ++ rest ∧
      scheme.map Ascii.toLower = "hx".toList ∧ (rest = [] ∨ ∃ f, rest = '#' :: f) := by
  unfold namesMark
  generalize Url.unbroken (trimBy Url.isOuterBlank text.toList) = cs
  constructor
  · intro h
    simp only [Bool.and_eq_true, Bool.or_eq_true, beq_iff_eq, List.isPrefixOf_iff_prefix] at h
    obtain ⟨hscheme, hrest | ⟨f, hrest⟩⟩ := h
    · refine ⟨cs.take 2, [], ?_, hscheme, .inl rfl⟩
      rw [List.append_nil, ← hrest, List.take_append_drop]
    · refine ⟨cs.take 2, '#' :: f, ?_, hscheme, .inr ⟨f, rfl⟩⟩
      rw [List.append_assoc]
      exact ((congrArg (cs.take 2 ++ ·) hrest).trans (List.take_append_drop 2 cs)).symm
  · rintro ⟨scheme, rest, rfl, hscheme, hrest⟩
    obtain ⟨h, x, rfl⟩ : ∃ h x, scheme = [h, x] := List.length_eq_two.1 (by simpa using congrArg List.length hscheme)
    rcases hrest with rfl | ⟨f, rfl⟩
    · simpa using hscheme
    · simpa using hscheme

end Cache

namespace Scope

variable {s : Scope} {text : String} {u : Url}

/-- A text that names the mark is read as the mark, with a fragment or without one. -/
theorem resolve_of_namesMark (s : Scope) (h : namesMark text) :
    ∃ f, s.resolve text = .ok ⟨"hx", none, .flat "ready", none, f⟩ := by
  obtain ⟨scheme, rest, hcs, hscheme, hrest⟩ := namesMark_iff.1 h
  obtain ⟨h, x, rfl⟩ : ∃ h x, scheme = [h, x] := List.length_eq_two.1 (by simpa using congrArg List.length hscheme)
  obtain ⟨hh, hx⟩ : Ascii.toLower h = 'h' ∧ Ascii.toLower x = 'x' := by simpa using hscheme
  have hletter := Ascii.isLetter_of_toLower hh (by decide)
  have hname : ∀ c ∈ [h, x], Url.isSchemeChar c := by
    simp [Url.isSchemeChar, Ascii.isAlphanumeric, hletter, Ascii.isLetter_of_toLower hx (by decide)]
  have hcut : Url.cutScheme? ([h, x] ++ ":ready".toList ++ rest) = some ("hx", "ready".toList ++ rest) := by
    rw [List.append_assoc]
    exact (Url.cutScheme_append hletter hname _).trans (by rw [hscheme]; rfl)
  unfold resolve Url.resolve Url.read
  simp only [hcs, hcut]
  rcases hrest with rfl | ⟨f, rfl⟩
  · exact ⟨_, rfl⟩
  · exact ⟨_, rfl⟩

/-- Just the texts that name the mark lead to its key. -/
theorem exists_resolve_marker (hs : s.base.authority.isSome) :
    (∃ url, s.resolve text = .ok url ∧ cacheKey url = readyMarker) ↔ namesMark text := by
  constructor
  · rintro ⟨url, hurl, hkey⟩
    obtain ⟨hauthority, hquery, t, hpath⟩ := Url.flat_of_marker hkey
    obtain ⟨scheme, rest, hcut, rfl⟩ := Url.flat_of_read hs hurl hauthority hpath
    obtain ⟨first, more, hcs, hname, -⟩ := Url.eq_of_cutScheme hcut
    -- the one colon of the mark is that behind the scheme
    have htext : "hx".toList ++ ':' :: "ready".toList =
        scheme.toList ++ ':' :: Url.encode Url.inControlSet (Url.Parts.of rest).body := by
      have hlist := congrArg String.toList hkey
      simp only [cacheKey, Url.withoutFragment, Url.text, Url.front, Url.Path.text, Url.behind, hquery] at hlist
      simpa [readyMarker] using hlist.symm
    obtain ⟨hhx, -, hbody⟩ := (List.append_cons_inj_of_notMem (by decide) (by decide)).1 htext
    have hplain : (Url.Parts.of rest).body = "ready".toList := by
      rw [hbody]
      exact (Url.encode_eq_self (hbody ▸ by decide)).symm
    refine namesMark_iff.2 ⟨first :: more, marked '#' (Url.Parts.of rest).fragment, ?_, by rw [← hname, ← hhx], ?_⟩
    · have hrest := Url.Parts.eq_of_query (Option.map_eq_none_iff.1 hquery)
      rw [hplain] at hrest
      exact hcs.trans ((congrArg (first :: more ++ ':' :: ·) hrest).trans (by simp))
    · cases (Url.Parts.of rest).fragment with
      | none => exact .inl rfl
      | some f => exact .inr ⟨f, rfl⟩
  · intro h
    obtain ⟨f, hf⟩ := s.resolve_of_namesMark h
    exact ⟨_, hf, rfl⟩

/-- The key of a path is the mark where the path names it. -/
theorem LeadsTo.eq_marker_iff {key : String} (h : s.LeadsTo text key) (hs : s.base.authority.isSome) :
    key = readyMarker ↔ namesMark text := by
  obtain ⟨url, request, hurl, -, rfl⟩ := h
  rw [← exists_resolve_marker hs]
  constructor
  · exact fun hkey => ⟨url, hurl, hkey⟩
  · rintro ⟨url', hurl', hkey⟩
    cases hurl.symm.trans hurl'
    exact hkey

end Scope

/-! ### Generations that are filled -/

namespace Cache

open EdgeWorker.Host Generations

variable {admits : Http.Request → Except Fetch.Error Http.Response → Prop} {gs : Generations} {g h : String}
  {entries : List (String × Entry)} {c : Current}

theorem Generations.isMarked_openGeneration : (gs.openGeneration g).IsMarked h ↔ gs.IsMarked h :=
  (Fills.openGeneration gs g).isMarked_iff

theorem Generations.isMarked_putAll :
    (gs.putAll g entries).IsMarked h ↔ gs.IsMarked h ∨ h = g ∧ readyMarker ∈ entries.map Prod.fst := by
  unfold IsMarked
  by_cases he : h = g
  · subst he
    rw [← mem_urls, ← mem_urls, urls_putAll_self, Persistent.mem_listed]
    simp only [true_and]
  · rw [entryAt?_putAll_of_ne he]
    simp only [he, false_and, or_false]

namespace Current

/-- A generation that is filled is marked by it where one of the paths names the mark. -/
theorem ensures_install_marks (hs : c.scope.base.authority.isSome) (m : Manifest) (gs : Generations) :
    (c.install m).run.Ensures (inMemory admits) gs fun r gs' => ∀ g, gs'.IsMarked g ↔
      gs.IsMarked g ∨ g = c.generation ∧ r.isOk ∧ ∃ path ∈ m.paths, namesMark path := by
  refine (c.ensures_install m gs).mono ?_
  rintro r gs' (⟨⟨e, rfl⟩, hgs⟩ | ⟨entries, rfl, hentries, rfl⟩) g
  · have hsame : gs'.IsMarked g ↔ gs.IsMarked g := by
      rcases hgs with rfl | rfl
      · rfl
      · exact isMarked_openGeneration
    simp [hsame, Except.isOk, Except.toBool]
  · have hpaths : readyMarker ∈ entries.map Prod.fst ↔ ∃ path ∈ m.paths, namesMark path := by
      generalize m.paths = paths at hentries ⊢
      induction hentries with
      | nil => simp
      | @cons path stored paths entries hpath _ ih =>
        rw [List.map_cons, List.mem_cons, List.exists_mem_cons_iff, ih, ← hpath.leadsTo.eq_marker_iff hs, eq_comm]
    rw [isMarked_putAll, isMarked_openGeneration, hpaths]
    simp [Except.isOk, Except.toBool]

/-- A generation that a resource is added to is marked by it where the path names the mark. -/
theorem ensures_add_marks (hs : c.scope.base.authority.isSome) (path : String) (gs : Generations) :
    (c.add path).run.Ensures (inMemory admits) gs fun r gs' => ∀ g, gs'.IsMarked g ↔
      gs.IsMarked g ∨ g = c.generation ∧ r.isOk ∧ namesMark path := by
  refine (c.ensures_add path gs).mono ?_
  rintro r gs' (⟨⟨e, rfl⟩, rfl⟩ | ⟨rfl, stored, hstored, rfl⟩) g
  · simp [Except.isOk, Except.toBool]
  · rw [isMarked_putAll, List.map_singleton, List.mem_singleton, eq_comm (a := readyMarker), hstored.leadsTo.eq_marker_iff hs]
    simp [Except.isOk, Except.toBool]

end Current
end Cache
end EdgeWorker
