import EdgeWorker.Proofs.Cache.Current
import EdgeWorker.Proofs.Url.Reader

/-!
Which paths lead to the key of the mark of a complete generation. No path with a slash does (`not_leadsTo_marker`), and
so no template.

A key that is the mark has no slash, so its address has no authority, and a path that is one text (`flat_of_marker`).
Read relative to an address with an authority, it was read after a scheme of its own (`flat_of_read`), and a slash of
what was read can only have come behind the mark of a fragment. But there is no request for an address that begins with
`hx:ready#` (`getRequest_marker`).
-/

namespace EdgeWorker

open EdgeWorker.Text EdgeWorker.Cache

namespace Url

variable {u : Url} {text : String} {cs : List Char}

/-! ### The key of the mark -/

/-- An address whose key is the mark has no authority and no query, and its path is one text. -/
theorem flat_of_marker (h : cacheKey u = readyMarker) : u.authority = none ∧ u.query = none ∧ ∃ t, u.path = .flat t := by
  obtain ⟨scheme, authority, path, query, fragment⟩ := u
  have hlist : (cacheKey ⟨scheme, authority, path, query, fragment⟩).toList = readyMarker.toList := by rw [h]
  simp only [cacheKey, withoutFragment, text, front, behind, String.toList_append] at hlist
  have hslash : '/' ∉ readyMarker.toList := by decide
  cases authority with
  | some a => exact absurd (by rw [← hlist]; simp) hslash
  | none =>
    cases query with
    | some q => exact absurd (show '?' ∈ readyMarker.toList by rw [← hlist]; simp) (by decide)
    | none =>
      cases path with
      | flat t => exact ⟨rfl, rfl, t, rfl⟩
      | segments ss =>
        cases ss with
        | nil =>
          have hlast := congrArg List.getLast? hlist
          simp [Path.text, readyMarker] at hlast
        | cons s ss => exact absurd (by rw [← hlist]; simp [Path.text]) hslash

/-- The mark with a fragment behind it is read as such. -/
theorem ofText_marker (h : text.toList = "hx:ready#".toList ++ cs) :
    ∃ f, ofText text = .ok ⟨"hx", none, .flat "ready", none, some f⟩ := by
  have hcut : unbroken (trimBy isOuterBlank text.toList) = "hx:ready#".toList ++ unbroken (dropEnd isOuterBlank cs) := by
    rw [h]
    exact congrArg unbroken (trimBy_append_cons (q := isOuterBlank) rfl "hx:ready".toList cs)
  unfold ofText read
  rw [hcut]
  exact ⟨_, rfl⟩

/-- A target has no colon before its number sign where it has no slashes there. -/
theorem target_marker (h : text.toList = "hx:ready#".toList ++ cs) (target : Http.Target) :
    Http.Target.ofText text ≠ .ok target := by
  unfold Http.Target.ofText
  rw [h]
  dsimp only
  split
  · nofun
  · exact fun he => by cases he

/-- There is no request for an address with the key of the mark and a fragment. -/
theorem getRequest_marker (h : cacheKey u = readyMarker) (hf : u.fragment.isSome) (r : Http.Request) :
    Fetch.getRequest u ≠ .ok r := by
  obtain ⟨f, hf⟩ := Option.isSome_iff_exists.1 hf
  have htext : u.text.toList = "hx:ready#".toList ++ f.toList := by
    have hl : u.text = cacheKey u ++ behind "#" u.fragment := by
      simp only [text, cacheKey, withoutFragment, front, behind, String.append_empty]
    rw [hl, h, hf]
    simp [behind, readyMarker]
  obtain ⟨f', hread⟩ := ofText_marker htext
  unfold Fetch.getRequest Fetch.Draft.request Fetch.Draft.start
  rw [hread]
  dsimp only
  split
  · nofun
  · next target ht => exact absurd ht (target_marker (by simp [text, front, behind, Path.text]; rfl) target)

end Url

/-! ### Paths with a slash -/

/-- The answer for a path with a slash is not kept under the key of the mark. -/
theorem Scope.not_leadsTo_marker {s : Scope} (hs : s.base.authority.isSome) {path : String} (hp : '/' ∈ path.toList) :
    ¬ s.LeadsTo path readyMarker := by
  rintro ⟨url, request, hurl, hrequest, hkey⟩
  obtain ⟨hauthority, hquery, t, hpath⟩ := Url.flat_of_marker hkey
  obtain ⟨scheme, rest, hcut, rfl⟩ := Url.flat_of_read hs hurl hauthority hpath
  refine Url.getRequest_marker hkey (Option.isSome_iff_ne_none.2 fun hfragment => ?_) request hrequest
  have hslash : '/' ∈ rest :=
    Url.slash_mem_of_cutScheme hcut (List.mem_filter.2 ⟨mem_trimBy (by decide) hp, by decide⟩)
  rw [← Url.Parts.body_of (Option.map_eq_none_iff.1 hquery) (Option.map_eq_none_iff.1 hfragment)] at hslash
  -- an encoded path keeps its slashes, and the mark has none
  have hkept : '/' ∈ Url.encode Url.inControlSet (Url.Parts.of rest).body :=
    List.mem_flatMap.2 ⟨'/', hslash, List.mem_singleton.2 rfl⟩
  have hmark : '/' ∈ readyMarker.toList := by
    rw [← hkey]
    simp [cacheKey, Url.withoutFragment, Url.text, Url.Path.text, hkept]
  exact absurd hmark (by decide)

end EdgeWorker
