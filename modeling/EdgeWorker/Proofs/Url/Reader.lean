import EdgeWorker.Proofs.Ascii
import EdgeWorker.Proofs.Text.Cut
import EdgeWorker.Scope

/-!
How addresses are read.

* `eq_of_cutScheme`, `cutScheme_append` — a text with a scheme;
* `Parts.of_eq`, `Parts.exists_eq` — the parts of a text;
* `flat_of_read` — an address without an authority was read after a scheme of its own;
* `Scope.authority_of` — the address of a scope has an authority.
-/

namespace EdgeWorker

open EdgeWorker.Text

namespace Url

variable {base u : Url} {scheme text t : String} {p : Parts} {cs rest body : List Char} {c : Char} {inSet : Char → Bool}
  {query fragment : Option (List Char)}

/-! ### Parts of a text -/

/-- A text that has no percent sign when it is encoded is not changed by that. -/
theorem encode_eq_self (h : '%' ∉ encode inSet cs) : encode inSet cs = cs := by
  unfold encode at h ⊢
  induction cs with
  | nil => rfl
  | cons c cs ih =>
    rw [List.flatMap_cons, List.mem_append, not_or] at h
    rw [List.flatMap_cons, ih h.2]
    by_cases hc : inSet c
    · -- every byte of an encoded character begins with the sign
      obtain ⟨b, bs, hb⟩ := List.exists_cons_of_ne_nil (String.utf8EncodeChar_ne_nil (c := c))
      exact absurd (by simp [hc, utf8, hb, percent]) h.1
    · rw [if_neg hc, List.singleton_append]

/-- The parts of a text are those between the marks. -/
theorem Parts.of_eq (hbody : '#' ∉ body ++ marked '?' query) (hquery : '?' ∉ body) :
    Parts.of (body ++ marked '?' query ++ marked '#' fragment) = ⟨body, query, fragment⟩ := by
  unfold Parts.of
  rw [cutAt_marked hbody]
  cases fragment with
  | none =>
    simp only [Option.map_none]
    rw [show marked '#' none = [] from rfl, List.append_nil, cutAt_marked hquery]
    cases query with
    | none => simp [marked]
    | some q => rfl
  | some f =>
    simp only [Option.map_some]
    rw [cutAt_marked hquery]
    cases query with
    | none => simp [marked]
    | some q => rfl

/-- Every text has a body, and a query and a fragment or not. -/
theorem Parts.exists_eq (cs : List Char) : ∃ body query fragment, cs = body ++ marked '?' query ++ marked '#' fragment ∧
    '#' ∉ body ++ marked '?' query ∧ '?' ∉ body := by
  obtain ⟨front, fragment, rfl, hfront⟩ := exists_marked '#' cs
  obtain ⟨body, query, rfl, hbody⟩ := exists_marked '?' front
  exact ⟨body, query, fragment, rfl, hfront, hbody⟩

/-- A text without a query is a body, with or without a fragment. -/
theorem Parts.eq_of_query (hq : (Parts.of cs).query = none) : cs = (Parts.of cs).body ++ marked '#' (Parts.of cs).fragment := by
  obtain ⟨body, query, fragment, rfl, hbody, hquery⟩ := Parts.exists_eq cs
  rw [Parts.of_eq hbody hquery] at hq ⊢
  obtain rfl : query = none := hq
  rw [marked, List.append_nil]

/-- A text without the marks of a query and a fragment is all body. -/
theorem Parts.body_of (hq : (Parts.of cs).query = none) (hf : (Parts.of cs).fragment = none) : (Parts.of cs).body = cs := by
  have h := Parts.eq_of_query hq
  rw [hf, marked, List.append_nil] at h
  exact h.symm

/-! ### Schemes -/

/-- A text with a scheme is the letters of the scheme, a colon and the rest. -/
theorem eq_of_cutScheme (hc : cutScheme? cs = some (scheme, rest)) : ∃ first more, cs = first :: more ++ ':' :: rest ∧
    scheme.toList = (first :: more).map Ascii.toLower ∧ Ascii.isLetter first ∧ ∀ c ∈ first :: more, isSchemeChar c := by
  obtain ⟨name, back, rfl, hname, hback⟩ := exists_front isSchemeChar cs
  unfold cutScheme? at hc
  simp only [takeWhile_front hname hback, List.drop_left] at hc
  split at hc
  · split at hc
    · next hletter =>
      cases hc
      exact ⟨_, _, rfl, String.toList_ofList, hletter, hname⟩
    · cases hc
  · cases hc

/-- Characters of schemes before a colon, a letter first, are a scheme. -/
theorem cutScheme_append {first : Char} {more : List Char} (hfirst : Ascii.isLetter first)
    (hname : ∀ c ∈ first :: more, isSchemeChar c) (rest : List Char) :
    cutScheme? (first :: more ++ ':' :: rest) = some (String.ofList ((first :: more).map Ascii.toLower), rest) := by
  have hfront : (first :: more ++ ':' :: rest).takeWhile isSchemeChar = first :: more :=
    takeWhile_front hname fun c hc => by cases hc; rfl
  unfold cutScheme?
  simp only [hfront, List.drop_left, hfirst, if_true]

/-- A scheme has no slash. -/
theorem slash_mem_of_cutScheme (hc : cutScheme? cs = some (scheme, rest)) (h : '/' ∈ cs) : '/' ∈ rest := by
  obtain ⟨first, more, rfl, -, -, hname⟩ := eq_of_cutScheme hc
  rcases List.mem_append.1 h with h | h
  · exact absurd (hname '/' h) (by decide)
  · exact (List.mem_cons.1 h).resolve_left nofun

/-! ### Addresses without an authority -/

theorem authority_of_withAuthority (h : withAuthority scheme p = .ok u) : u.authority.isSome := by
  unfold withAuthority at h
  dsimp only at h
  repeat' split at h
  all_goals cases h <;> rfl

theorem authority_of_readRelative (hb : base.authority.isSome) (h : readRelative base p = .ok u) :
    u.authority.isSome := by
  unfold readRelative at h
  dsimp only at h
  repeat' split at h
  all_goals first | exact authority_of_withAuthority h | (cases h; exact hb)

theorem authority_of_readFile {base : Option Url} (hb : ∀ b, base = some b → b.authority.isSome)
    (h : readFile base p = .ok u) : u.authority.isSome := by
  unfold readFile readFile.readOne fileHost at h
  dsimp only at h
  repeat' split at h
  all_goals first | (cases h; rfl) | (cases h; exact (hb _ rfl :)) | cases h

/-- Without an authority an address was read after a scheme of its own. -/
theorem flat_of_read (hb : base.authority.isSome) (h : read (some base) text = .ok u) (hu : u.authority = none)
    (ht : u.path = .flat t) : ∃ scheme rest, cutScheme? (unbroken (trimBy isOuterBlank text.toList)) = some (scheme, rest) ∧
      u = ⟨scheme, none, .flat (String.ofList (encode inControlSet (Parts.of rest).body)),
        (Parts.of rest).queryText scheme, (Parts.of rest).fragmentText⟩ := by
  have hnone {P : Prop} (hs : u.authority.isSome) : P := by simp [hu] at hs
  have hfilter {q : Url → Bool} : ∀ b, (some base).filter q = some b → b.authority.isSome := by
    intro b hf
    obtain ⟨hf, -⟩ := Option.filter_eq_some_iff.1 hf
    cases hf
    exact hb
  unfold read at h
  dsimp only at h
  cases hcut : cutScheme? (unbroken (trimBy isOuterBlank text.toList)) with
  | some found =>
    obtain ⟨scheme, rest⟩ := found
    rw [hcut] at h
    refine ⟨scheme, rest, rfl, ?_⟩
    dsimp only at h
    unfold readAbsolute at h
    dsimp only at h
    split at h
    · exact hnone (authority_of_readFile hfilter h)
    · split at h
      · split at h
        · next hf =>
          split at h
          · exact hnone (authority_of_readRelative (hfilter _ hf) h)
          · exact hnone (authority_of_withAuthority h)
        · exact hnone (authority_of_withAuthority h)
      · split at h
        · exact hnone (authority_of_withAuthority h)
        · cases h
          cases ht
        · cases h
          rfl
  | none =>
    rw [hcut] at h
    dsimp only at h
    split at h
    · split at h
      · cases h
        exact hnone hb
      · cases h
    · split at h
      · exact hnone (authority_of_readFile (fun b hb' => by cases hb'; exact hb) h)
      · exact hnone (authority_of_readRelative hb h)

end Url

/-! ### Scopes -/

theorem Scope.authority_of {origin basePath : String} {s : Scope} (h : Scope.of origin basePath = .ok s) :
    s.base.authority.isSome := by
  unfold Scope.of at h
  split at h
  · cases h
  · next url hurl =>
    split at h
    · cases h
    · next hhost =>
      cases h
      unfold Url.host? at hhost
      show url.authority.isSome
      cases ha : url.authority with
      | none => simp [ha] at hhost
      | some a => rfl

end EdgeWorker
