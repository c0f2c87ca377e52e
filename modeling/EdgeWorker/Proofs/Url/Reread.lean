import EdgeWorker.Fetch.Draft
import EdgeWorker.Proofs.Http.Target
import EdgeWorker.Proofs.Url.Ending

/-!
Written addresses that are read again, as it is done for every request.

* `Scope.Based` — what is known of the address of a scope;
* `read_written` — a text that begins with a scheme is read after it, whatever it is relative to;
* `withoutFragment_eq` — the fragment plays no part in what is read besides;
* `getRequest_eq` — so addresses with one key have one request, and `target_text_eq` — it is for the key itself where
  that is the text of a target.
-/

namespace EdgeWorker

open EdgeWorker.Text

namespace Url

variable {base u v v' : Url} {scheme text text' : String} {p p' : Parts} {cs ds : List Char} {f f' : Option (List Char)}

/-! ### Schemes -/

/-- A scheme as it is written: a letter and more characters of schemes, all of them small. -/
def IsScheme (scheme : String) : Prop := ∃ first more, scheme.toList = first :: more ∧ Ascii.isLetter first ∧
  ∀ c ∈ first :: more, isSchemeChar c ∧ Ascii.toLower c = c

theorem isScheme_of_cutScheme {rest : List Char} (h : cutScheme? cs = some (scheme, rest)) : IsScheme scheme := by
  obtain ⟨first, more, -, hscheme, hfirst, hname⟩ := eq_of_cutScheme h
  refine ⟨_, _, hscheme, Ascii.isLetter_toLower hfirst, fun c hc => ?_⟩
  rw [← List.map_cons] at hc
  obtain ⟨d, hd, rfl⟩ := List.mem_map.1 hc
  refine ⟨?_, Ascii.toLower_toLower d⟩
  rcases Ascii.toLower_eq_or d with hsame | ⟨-, hlower⟩
  · rw [hsame]
    exact hname d hd
  · simp [isSchemeChar, Ascii.isAlphanumeric, Ascii.isLetter, hlower]

theorem scheme_of_withAuthority (h : withAuthority scheme p = .ok u) : u.scheme = scheme := by
  obtain ⟨_, _, _, _, _, _, _, -, -, rfl⟩ := eq_of_withAuthority h
  rfl

theorem scheme_of_readRelative (h : readRelative base p = .ok u) : u.scheme = base.scheme := by
  unfold readRelative at h
  dsimp only at h
  repeat' split at h
  all_goals first | exact scheme_of_withAuthority h | (cases h; rfl)

theorem scheme_of_readFile {base : Option Url} (hb : ∀ b ∈ base, b.scheme = "file") (h : readFile base p = .ok u) :
    u.scheme = "file" := by
  unfold readFile readFile.readOne fileHost at h
  dsimp only at h
  repeat' split at h
  all_goals first | (cases h; rfl) | (cases h; exact (hb _ rfl :)) | cases h

theorem scheme_of_readAbsolute {base : Option Url} (h : readAbsolute base scheme p = .ok u) : u.scheme = scheme := by
  unfold readAbsolute at h
  dsimp only at h
  split at h
  · next hfile =>
    rw [beq_iff_eq] at hfile
    rw [hfile]
    refine scheme_of_readFile (fun b hb => ?_) h
    simpa using (Option.filter_eq_some_iff.1 hb).2
  · split at h
    · split at h
      · next b hb =>
        split at h
        · rw [scheme_of_readRelative h]
          simpa using (Option.filter_eq_some_iff.1 hb).2
        · exact scheme_of_withAuthority h
      · exact scheme_of_withAuthority h
    · split at h
      · exact scheme_of_withAuthority h
      · cases h
        rfl
      · cases h
        rfl

/-- The scheme of an address that was read is one. -/
theorem isScheme_of_read {base : Option Url} (hb : ∀ b ∈ base, IsScheme b.scheme) (h : read base text = .ok u) :
    IsScheme u.scheme := by
  unfold read at h
  dsimp only at h
  split at h
  · next hcut => exact scheme_of_readAbsolute h ▸ isScheme_of_cutScheme hcut
  · cases h
  · next b _ =>
    split at h
    · split at h
      · cases h
        exact hb b rfl
      · cases h
    · split at h
      · next hfile =>
        rw [beq_iff_eq] at hfile
        have hbase : ∀ b' ∈ some b, b'.scheme = "file" := by
          rintro _ ⟨⟩
          exact hfile
        rw [scheme_of_readFile hbase h, ← hfile]
        exact hb b rfl
      · exact scheme_of_readRelative h ▸ hb b rfl

/-! ### Texts that begin with a scheme -/

theorem isLetter_not_blank {first : Char} {more : List Char} (hfirst : Ascii.isLetter first) :
    (first :: more).dropWhile isOuterBlank = first :: more :=
  List.dropWhile_cons_of_neg (by rw [not_blank_of_isLetter hfirst]; nofun)

theorem not_isLineBreak_of_isSchemeChar {c : Char} (h : isSchemeChar c) : isLineBreak c = false := by
  refine Bool.eq_false_iff.2 fun hc => ?_
  have hbreaks : c = '\t' ∨ c = '\n' ∨ c = '\r' := by simpa [isLineBreak, or_assoc] using hc
  rcases hbreaks with rfl | rfl | rfl <;> exact absurd h (by decide)

/-- A text that begins with a scheme is read after it, whatever it is relative to. -/
theorem read_written (hs : IsScheme scheme) (htext : text.toList = scheme.toList ++ ':' :: cs) (base : Option Url) :
    read base text = readAbsolute base scheme (Parts.of (unbroken (dropEnd isOuterBlank cs))) := by
  obtain ⟨first, more, hscheme, hfirst, hname⟩ := hs
  have hkept : unbroken (first :: more) = first :: more :=
    List.filter_eq_self.2 fun c hc => by rw [not_isLineBreak_of_isSchemeChar (hname c hc).1]; rfl
  have hlower : (first :: more).map Ascii.toLower = first :: more :=
    (List.map_congr_left fun c hc => (hname c hc).2).trans (List.map_id _)
  have hread : unbroken (trimBy isOuterBlank text.toList) = first :: more ++ ':' :: unbroken (dropEnd isOuterBlank cs) := by
    rw [htext, hscheme, trimBy_append_cons (q := isOuterBlank) rfl, isLetter_not_blank hfirst, unbroken, List.filter_append,
      ← unbroken, hkept]
    rfl
  have hcut := cutScheme_append hfirst (fun c hc => (hname c hc).1) (unbroken (dropEnd isOuterBlank cs))
  rw [hlower, ← hscheme, String.ofList_toList, hscheme] at hcut
  unfold read
  simp only [hread, hcut]

/-! ### Texts without their fragment -/

/-- The parts of a text without its fragment. -/
def Parts.front (p : Parts) : Parts := { p with fragment := none }

theorem withAuthority_front (h : withAuthority scheme p = .ok u) : withAuthority scheme p.front = .ok u.withoutFragment := by
  unfold withAuthority at h ⊢
  dsimp only [Parts.front] at h ⊢
  split at h
  all_goals
    split at h
    · cases h
    · next hgoes =>
      -- a text that does not go on does not do so without its fragment either
      rw [if_neg fun hc => hgoes ?_]
      · split at h
        · cases h
        · split at h
          · cases h
          · next hname =>
            cases h
            exact if_neg hname
      · rw [Option.isSome_none, Bool.or_false, Bool.and_eq_true] at hc
        rw [Bool.and_eq_true]
        exact ⟨hc.1, by rw [hc.2, Bool.true_or]⟩

theorem fileHost_front (h : fileHost p cs = .ok u) : fileHost p.front cs = .ok u.withoutFragment := by
  unfold fileHost at h ⊢
  dsimp only at h ⊢
  split at h
  · next hdrive =>
    cases h
    rw [if_pos hdrive]
    rfl
  · next hdrive =>
    rw [if_neg hdrive]
    split at h
    · next hempty =>
      cases h
      rw [if_pos hempty]
      rfl
    · next hempty =>
      rw [if_neg hempty]
      split at h
      · cases h
      · cases h
        rfl

theorem readFile_front (h : readFile none p = .ok u) : readFile none p.front = .ok u.withoutFragment := by
  have hone {a : Char} {rest : List Char} (h : readFile.readOne none p a rest = .ok u) :
      readFile.readOne none p.front a rest = .ok u.withoutFragment := by
    unfold readFile.readOne at h ⊢
    dsimp only at h ⊢
    split at h
    · next hslash =>
      cases h
      rw [if_pos hslash]
      rfl
    · next hslash =>
      cases h
      rw [if_neg hslash]
      rfl
  unfold readFile at h ⊢
  dsimp only [Parts.front] at h ⊢
  split at h
  · split at h
    · next hslash =>
      rw [if_pos hslash]
      exact fileHost_front h
    · next hslash =>
      rw [if_neg hslash]
      exact hone h
  · exact hone h
  · cases h
    rfl

/-- What is read of a text without its fragment is the address without its fragment. -/
theorem readAbsolute_front (h : readAbsolute none scheme p = .ok u) :
    readAbsolute none scheme p.front = .ok u.withoutFragment := by
  unfold readAbsolute at h ⊢
  dsimp only [Parts.front, Option.filter_none] at h ⊢
  split at h
  · next hfile =>
    rw [if_pos hfile]
    exact readFile_front h
  · next hfile =>
    rw [if_neg hfile]
    split at h
    · next hweb =>
      rw [if_pos hweb]
      have hfront := withAuthority_front h
      exact hfront
    · next hweb =>
      rw [if_neg hweb]
      split at h
      · have hfront := withAuthority_front h
        exact hfront
      · cases h
        rfl
      · cases h
        rfl

/-- A fragment behind a text is all that it adds to the parts. -/
theorem Parts.front_marked (cs : List Char) (f : Option (List Char)) :
    (Parts.of (cs ++ marked '#' f)).front = (Parts.of cs).front := by
  obtain ⟨body, query, fragment, rfl, hbody, hquery⟩ := Parts.exists_eq cs
  have hall : ∃ fragment', body ++ marked '?' query ++ marked '#' fragment ++ marked '#' f =
      body ++ marked '?' query ++ marked '#' fragment' := by
    cases fragment with
    | none => exact ⟨f, by simp [marked]⟩
    | some g => exact ⟨some (g ++ marked '#' f), by simp [marked]⟩
  obtain ⟨fragment', hall⟩ := hall
  rw [hall, Parts.of_eq hbody hquery, Parts.of_eq hbody hquery]
  rfl

/-- Trimming a text leaves what is before its fragment, where that ends in no blank if there is none. -/
theorem exists_dropEnd_marked (hend : f = none → cs = [] ∨ Ends cs) :
    ∃ g, dropEnd isOuterBlank (cs ++ marked '#' f) = cs ++ marked '#' g := by
  cases f with
  | some f => exact ⟨some _, dropEnd_append_cons rfl cs f⟩
  | none =>
    refine ⟨none, ?_⟩
    rw [marked, List.append_nil]
    rcases hend rfl with rfl | ⟨c, hc, hblank⟩
    · rfl
    · obtain ⟨before, rfl⟩ := List.getLast?_eq_some_iff.1 hc
      rw [dropEnd_append_cons hblank]
      rfl

/-- What is read of a text that begins with a scheme, the fragment apart, is known from what is before the fragment. -/
theorem readAbsolute_of_written (hs : IsScheme scheme) (htext : text.toList = scheme.toList ++ ':' :: cs ++ marked '#' f)
    (hend : f = none → Ends text.toList) (h : ofText text = .ok v) :
    readAbsolute none scheme (Parts.of (unbroken cs)).front = .ok v.withoutFragment := by
  have hrest : f = none → cs = [] ∨ Ends cs := by
    rintro rfl
    have hends := hend rfl
    rw [htext, marked, List.append_nil, ← List.singleton_append, ← List.append_assoc] at hends
    exact (em (cs = [])).imp_right hends.of_append
  obtain ⟨g, hg⟩ := exists_dropEnd_marked hrest
  rw [List.append_assoc, List.cons_append] at htext
  rw [ofText, read_written hs htext, hg, unbroken, List.filter_append, ← unbroken, ← unbroken] at h
  have hmarked : unbroken (marked '#' g) = marked '#' (g.map unbroken) := by cases g <;> rfl
  rw [hmarked] at h
  rw [← Parts.front_marked]
  exact readAbsolute_front h

/-! ### Written addresses -/

theorem toList_text (u : Url) :
    u.text.toList = u.withoutFragment.text.toList ++ marked '#' (u.fragment.map String.toList) := by
  obtain ⟨scheme, authority, path, query, fragment⟩ := u
  cases fragment <;> simp [text, withoutFragment, front, behind, marked]

/-- A written address is its scheme and more, which begins with two slashes where there is an authority. -/
theorem exists_written (u : Url) : ∃ cs, u.withoutFragment.text.toList = u.scheme.toList ++ ':' :: cs ∧
    (u.authority.isSome → ∃ more, cs = '/' :: '/' :: more) := by
  obtain ⟨scheme, authority, path, query, fragment⟩ := u
  cases authority with
  | none => exact ⟨_, by simp only [text, withoutFragment, front, String.toList_append, List.append_assoc]; rfl, nofun⟩
  | some a => exact ⟨_, by simp only [text, withoutFragment, front, String.toList_append, List.append_assoc]; rfl, fun _ => ⟨_, rfl⟩⟩

/-- Two slashes at the beginning of a text belong to its body. -/
theorem Parts.body_of_slashes (cs : List Char) : ∃ more, (Parts.of ('/' :: '/' :: cs)).body = '/' :: '/' :: more := by
  obtain ⟨body, query, fragment, rfl, hbody, hquery⟩ := Parts.exists_eq cs
  have hparts : Parts.of ('/' :: '/' :: body ++ marked '?' query ++ marked '#' fragment) =
      ⟨'/' :: '/' :: body, query, fragment⟩ := Parts.of_eq (by simpa using hbody) (by simpa using hquery)
  exact ⟨body, congrArg Parts.body hparts⟩

/-- Relative to an address or not, a text with an authority or with a scheme that is neither of the web is read alike. -/
theorem readAbsolute_eq_none {base : Option Url} (h : readAbsolute base scheme p = .ok u)
    (hbody : u.authority.isSome → ∃ more, p.body = '/' :: '/' :: more) (hb : ∀ b ∈ base, b.authority.isSome) :
    readAbsolute none scheme p = .ok u := by
  have hfilter {q : Url → Bool} : ∀ b ∈ base.filter q, b.authority.isSome := fun b hmem =>
    hb b (Option.filter_eq_some_iff.1 hmem).1
  unfold readAbsolute at h ⊢
  dsimp only [Option.filter_none] at h ⊢
  split at h
  · next hfile =>
    rw [if_pos hfile]
    obtain ⟨more, hmore⟩ := hbody (authority_of_readFile hfilter h)
    unfold readFile at h ⊢
    rw [hmore] at h ⊢
    exact h
  · next hfile =>
    rw [if_neg hfile]
    split at h
    · next hweb =>
      rw [if_pos hweb]
      split at h
      · next b hbase =>
        split at h
        · next hslashes =>
          -- there are two slashes already
          obtain ⟨more, hmore⟩ := hbody (authority_of_readRelative (hfilter b hbase) h)
          have hlength : ¬ (p.body.takeWhile (isSlash true)).length < 2 := by
            rw [hmore, List.takeWhile_cons_of_pos rfl, List.takeWhile_cons_of_pos rfl, List.length_cons, List.length_cons]
            omega
          exact absurd hslashes hlength
        · exact h
      · exact h
    · next hweb =>
      rw [if_neg hweb]
      exact h

end Url

theorem Fetch.getRequest_eq_ok {u : Url} {r : Http.Request} : getRequest u = .ok r ↔
    ∃ v target, Url.ofText u.text = .ok v ∧ Http.Target.ofText v.text = .ok target ∧ r = ⟨.get, target, Keyed.empty, []⟩ := by
  have hheaders : Draft.checkHeaders (Draft.start .get u.text).headers = .ok Keyed.empty := rfl
  unfold getRequest Draft.request
  rw [hheaders]
  dsimp only [Draft.start]
  cases hv : Url.ofText u.text with
  | error e => simp
  | ok v =>
    dsimp only
    cases ht : Http.Target.ofText v.text with
    | error e => simp [ht]
    | ok target => simp [ht, eq_comm]

/-- A fragment plays no part in a target. -/
theorem Url.target_withoutFragment {u : Url} {t : Http.Target} (h : Http.Target.ofText u.text = .ok t) :
    Http.Target.ofText u.withoutFragment.text = .ok t := by
  have htext := u.toList_text
  cases hf : u.fragment with
  | none =>
    rw [hf, Option.map_none, marked, List.append_nil, String.toList_inj] at htext
    rw [← htext]
    exact h
  | some f =>
    rw [hf] at htext
    exact Http.Target.ofText_of_fragment htext h

/-! ### Scopes -/

open Url

/-- What is known of the address of a scope. -/
structure Scope.Based (s : Scope) : Prop where
  authority : s.base.authority.isSome
  scheme : IsScheme s.base.scheme
  closed : Closed s.base
  fragment : s.base.fragment = none

variable {s : Scope} {u u' : Url} {text path path' : String} {r r' : Http.Request}

theorem Url.closed_withoutMarks (u : Url) {cs : List Char} (hcs : cs ≠ []) :
    Closed { u with path := .segments (startPath u.scheme cs), query := none, fragment := none } := by
  refine closed_of_segments rfl ?_ nofun
  obtain ⟨c, cs, rfl⟩ := List.exists_cons_of_ne_nil hcs
  unfold startPath
  dsimp only
  split
  · exact endsClean_pathFrom _ _ _
  · exact endsClean_pathFrom _ _ _

theorem Scope.based_of {origin basePath : String} (h : Scope.of origin basePath = .ok s) : s.Based := by
  have hauthority := Scope.authority_of h
  unfold Scope.of at h
  split at h
  · cases h
  · next url hurl =>
    split at h
    · cases h
    · cases h
      have hpath : unbroken (normalizeBasePath basePath).toList ≠ [] := by
        unfold normalizeBasePath
        dsimp only
        split
        · decide
        · simp [unbroken, isLineBreak]
      have hscheme : IsScheme url.scheme := isScheme_of_read (fun b hb => by cases hb) hurl
      exact ⟨hauthority, hscheme, url.closed_withoutMarks hpath, rfl⟩

namespace Scope.Based

/-- A text that is its own address is read as that address without a scope, too. -/
theorem ofText_eq (hs : s.Based) (hu : s.resolve text = .ok u) (htext : u.text = text) : Url.ofText text = .ok u := by
  have hscheme : IsScheme u.scheme := isScheme_of_read (fun b hb => by cases hb; exact hs.scheme) hu
  obtain ⟨cs, hwritten, hslashes⟩ := exists_written u
  have hall : text.toList = u.scheme.toList ++ ':' :: (cs ++ marked '#' (u.fragment.map String.toList)) := by
    rw [← htext, u.toList_text, hwritten, List.append_assoc, List.cons_append]
  unfold Scope.resolve Url.resolve at hu
  rw [read_written hscheme hall] at hu
  rw [Url.ofText, read_written hscheme hall]
  refine readAbsolute_eq_none hu (fun ha => ?_) fun b hb => by cases hb; exact hs.authority
  obtain ⟨more, rfl⟩ := hslashes ha
  have hkept : unbroken (dropEnd isOuterBlank ('/' :: '/' :: more ++ marked '#' (u.fragment.map String.toList))) =
      '/' :: '/' :: unbroken (dropEnd isOuterBlank (more ++ marked '#' (u.fragment.map String.toList))) :=
    congrArg unbroken (dropEnd_append_cons (q := isOuterBlank) rfl ['/'] _)
  rw [hkept]
  exact Parts.body_of_slashes _

/-- Addresses with one key, read again, differ in no more than their fragments. -/
theorem withoutFragment_eq (hs : s.Based) {v v' : Url} (hu : s.resolve path = .ok u) (hu' : s.resolve path' = .ok u')
    (hkey : cacheKey u = cacheKey u') (hv : Url.ofText u.text = .ok v) (hv' : Url.ofText u'.text = .ok v') :
    v.withoutFragment = v'.withoutFragment := by
  have hscheme : IsScheme u.scheme := isScheme_of_read (fun b hb => by cases hb; exact hs.scheme) hu
  obtain ⟨cs, hwritten, -⟩ := exists_written u
  have hends {path : String} {u : Url} (hu : s.resolve path = .ok u) : u.fragment.map String.toList = none → Ends u.text.toList :=
    fun hf => (closed_of_read hs.closed hs.fragment hu).ends (Option.map_eq_none_iff.1 hf)
  have hread := readAbsolute_of_written hscheme (hwritten ▸ u.toList_text) (hends hu) hv
  have hwritten' : u'.withoutFragment.text.toList = u.scheme.toList ++ ':' :: cs := by
    rw [← hwritten]
    exact congrArg String.toList hkey.symm
  have hread' := readAbsolute_of_written hscheme (hwritten' ▸ u'.toList_text) (hends hu') hv'
  exact Except.ok.inj (hread.symm.trans hread')

/-- There is one request for the addresses with one key. -/
theorem getRequest_eq (hs : s.Based) (hu : s.resolve path = .ok u) (hu' : s.resolve path' = .ok u')
    (hkey : cacheKey u = cacheKey u') (hr : Fetch.getRequest u = .ok r) (hr' : Fetch.getRequest u' = .ok r') : r = r' := by
  obtain ⟨v, t, hv, ht, rfl⟩ := Fetch.getRequest_eq_ok.1 hr
  obtain ⟨v', t', hv', ht', rfl⟩ := Fetch.getRequest_eq_ok.1 hr'
  have hsame := Url.target_withoutFragment ht'
  rw [← hs.withoutFragment_eq hu hu' hkey hv hv', Url.target_withoutFragment ht] at hsame
  cases hsame
  rfl

/-- The request for an address with the key of a target that is its own address is for this target. -/
theorem target_text_eq (hs : s.Based) {t : Http.Target} (ht : Http.Target.ofText text = .ok t)
    (hu : s.resolve t.text = .ok u) (htext : u.text = t.text) (hu' : s.resolve path' = .ok u')
    (hkey : cacheKey u = cacheKey u') (hr' : Fetch.getRequest u' = .ok r') : r'.target.text = t.text := by
  obtain ⟨v', t', hv', ht', rfl⟩ := Fetch.getRequest_eq_ok.1 hr'
  have hread := htext ▸ hs.ofText_eq hu htext
  have hsame := Url.target_withoutFragment ht'
  rw [← hs.withoutFragment_eq hu hu' hkey hread hv'] at hsame
  -- a target has no fragment, so neither has its address
  have hfragment : u.fragment = none := by
    refine Option.eq_none_iff_forall_not_mem.2 fun f hf => Http.Target.hash_not_mem_text ht ?_
    rw [← htext, u.toList_text, Option.mem_def.1 hf]
    simp [marked]
  have hsame' : u.withoutFragment = u := by
    obtain ⟨scheme, authority, p, query, fragment⟩ := u
    cases hfragment
    rfl
  rw [hsame', htext] at hsame
  exact Http.Target.text_of_ofText_text ht hsame

end Scope.Based
end EdgeWorker
