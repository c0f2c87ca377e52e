import EdgeWorker.Proofs.Url.Host
import EdgeWorker.Worker.Serve

/-!
Requests that are sent on to an origin.

* `Target.form_absolute_iff` — an authority behind a scheme ends before the first slash, question mark or number sign;
* `Target.exists_behind` — what a request has behind its authority begins with a slash or a question mark, unless the
  target is an asterisk;
* `Worker.readdress_spec` — so the new target has the scheme, the host and the port of the origin, and the path and the
  query of the request; an asterisk becomes a part of the authority (`readdress_asterisk`).
-/

namespace EdgeWorker

open EdgeWorker.Text EdgeWorker.Http

/-! ### Targets with a scheme -/

namespace Http.Target

variable {name a cs : List Char} {s text : String} {t : Target}

/-- A text with a scheme is read in just one way: its authority ends as early as it can. -/
theorem form_absolute_iff (hname : ∀ c ∈ name, isSchemeChar c) (hs : schemeOf name = .ok s)
    (ha : ∀ c ∈ a, endsAuthority c = false) (hcs : ∀ c ∈ cs.head?, endsAuthority c) :
    Form (name ++ ':' :: '/' :: '/' :: (a ++ cs)) t ↔
      a ≠ [] ∧ checkAuthority a = .ok () ∧ readPath (some s) a cs = .ok t := by
  constructor
  · intro h
    generalize htext : name ++ ':' :: '/' :: '/' :: (a ++ cs) = text at h
    cases h with
    | asterisk => exact absurd (congrArg List.length htext) (by simp; omega)
    | path h =>
      cases name with
      | nil => cases htext
      | cons c name =>
        obtain rfl : c = '/' := (List.cons.inj htext).1
        exact absurd (hname _ List.mem_cons_self) (by decide)
    | authority _ _ _ hfree _ => exact absurd (hfree '/' (by rw [← htext]; simp)) (by decide)
    | @absolute name' a' cs' s' _ hname' hs' hne ha' hcheck hcs' h =>
      obtain rfl := front_eq (colon_not_mem hname) (colon_not_mem hname') htext
      have hrest : a ++ cs = a' ++ cs' := by simpa using htext
      obtain ⟨rfl, rfl⟩ := front_unique (p := fun c => !endsAuthority c) (by simpa using ha) (by simpa using hcs)
        (by simpa using ha') (by simpa using hcs') hrest
      cases hs.symm.trans hs'
      exact ⟨hne, hcheck, h⟩
  · rintro ⟨hne, hcheck, h⟩
    exact .absolute hname hs hne ha hcheck hcs h

/-- The text behind an authority that stands for the path and the query of a target. -/
structure Behind (t : Target) (path : List Char) (query : Option (List Char)) : Prop where
  written : (t.pathAndQuery?.getD "/").toList = path ++ marked '?' query
  isPathChar : ∀ c ∈ path, isPathChar c
  isQueryChar : ∀ q ∈ query, ∀ c ∈ q, isQueryChar c
  head : ∀ c ∈ (path ++ marked '?' query).head?, endsAuthority c
  path_eq : slashed path = (if t.path = "" then "/" else t.path).toList
  query_eq : query.map String.ofList = t.query

theorem Behind.readPath_eq {path : List Char} {query : Option (List Char)} (h : Behind t path query) (scheme : Option String)
    (a : List Char) : readPath scheme a (path ++ marked '?' query) =
      .ok ⟨scheme, String.ofList a, String.ofList path, query.map String.ofList⟩ :=
  readPath_eq_ok.2 ⟨path, query, none, by simp [marked], h.isPathChar, h.isQueryChar, rfl⟩

/-- The path is a slash where nothing is written for it. -/
theorem slashed_rawPath (t : Target) : slashed t.rawPath.toList = (if t.path = "" then "/" else t.path).toList := by
  have hpath : (if t.path = "" then "/" else t.path) = if t.rawPath = "" then "/" else t.rawPath := by
    unfold Target.path
    by_cases h : t.rawPath = "" <;> cases t.hasPath <;> simp [h]
  rw [hpath]
  by_cases h : t.rawPath = "" <;> simp [slashed, h]

/-- Where neither a path nor a query is written a slash stands for both. -/
theorem behind_of_nothing (hpath : t.rawPath = "") (hquery : t.query = none) : Behind t ['/'] none where
  written := by
    unfold pathAndQuery?
    split <;> simp [hpath, hquery, marked]
  isPathChar := List.forall_mem_singleton.2 rfl
  isQueryChar := nofun
  head := by simp [marked, endsAuthority]
  path_eq := by rw [← slashed_rawPath, hpath]; rfl
  query_eq := hquery.symm

/-- Otherwise they are written as they are. -/
theorem behind_of_written {scheme : Option String} {authority : String} {path : List Char} {query : Option (List Char)}
    (hplace : scheme.isSome ∨ authority = "") (hne : path ++ marked '?' query ≠ [])
    (hpath : ∀ c ∈ path, Target.isPathChar c) (hquery : ∀ q ∈ query, ∀ c ∈ q, Target.isQueryChar c)
    (hhead : ∀ c ∈ (path ++ marked '?' query).head?, endsAuthority c) :
    Behind ⟨scheme, authority, String.ofList path, query.map String.ofList⟩ path query where
  written := by
    unfold pathAndQuery?
    dsimp only
    rw [if_pos (by simpa using hplace), Option.getD_some, if_neg fun he => hne ?_]
    · cases query <;> simp [marked]
    · have hnil := congrArg String.toList (beq_iff_eq.1 he)
      cases query with
      | none => simpa [marked] using hnil
      | some q => simp at hnil
  isPathChar := hpath
  isQueryChar := hquery
  head := hhead
  path_eq := by rw [← slashed_rawPath, String.toList_ofList]
  query_eq := rfl

/-- What stands behind the authority of a target begins like the rest behind an authority, unless it is an asterisk. -/
theorem exists_behind (h : ofText text = .ok t) (htext : text ≠ "*") : ∃ path query, Behind t path query := by
  obtain ⟨-, hform⟩ := ofText_eq_ok.1 h
  generalize htoList : text.toList = cs at hform
  cases hform with
  | asterisk => exact absurd (String.toList_inj.1 htoList) htext
  | @path cs _ h =>
    obtain ⟨path, query, fragment, he, hpath, hquery, rfl⟩ := readPath_eq_ok.1 h
    obtain ⟨rest, rfl⟩ := exists_slash he
    exact ⟨'/' :: rest, query, behind_of_written (.inr rfl) nofun hpath hquery (by simp [endsAuthority])⟩
  | authority => exact ⟨_, _, behind_of_nothing rfl rfl⟩
  | @absolute name a cs s _ hname hs hne ha hcheck hcs h =>
    obtain ⟨path, query, fragment, rfl, hpath, hquery, rfl⟩ := readPath_eq_ok.1 h
    have hhead : ∀ c ∈ (path ++ marked '?' query).head?, endsAuthority c := by
      simpa [marked] using endsAuthority_head hcs none
    by_cases hempty : path ++ marked '?' query = []
    · obtain ⟨rfl, hmarked⟩ := List.append_eq_nil_iff.1 hempty
      cases query with
      | none => exact ⟨_, _, behind_of_nothing rfl rfl⟩
      | some q => cases hmarked
    · exact ⟨path, query, behind_of_written (.inl rfl) hempty hpath hquery hhead⟩

/-- The host that a target addresses, behind the user if there is one, and the port as it is written behind the host. -/
def hostAndPort (t : Target) : List Char × List Char :=
  Url.cutHost false (match Url.cutLast? '@' t.authority.toList with
    | some (_, place) => place
    | none => t.authority.toList)

end Http.Target

namespace Worker

open EdgeWorker.Url

variable {c : Config} {r r' : Request} {t t' : Target} {u : Url} {a : Authority} {text scheme : String}

/-! ### Places -/

theorem schemeOf_web (hweb : scheme = "http" ∨ scheme = "https") :
    Target.schemeOf scheme.toList = .ok scheme ∧ ∀ c ∈ scheme.toList, Target.isSchemeChar c := by
  rcases hweb with rfl | rfl
  · exact ⟨rfl, List.all_eq_true.1 rfl⟩
  · exact ⟨rfl, List.all_eq_true.1 rfl⟩

theorem endsAuthority_place (h : Hosted a.host.toList) {d : Char} (hd : d ∈ a.place.toList) : Target.endsAuthority d = false := by
  refine Bool.eq_false_iff.2 fun hends => ?_
  have hmarks : d = '/' ∨ d = '?' ∨ d = '#' := by simpa [Target.endsAuthority, or_assoc] using hends
  rcases hmarks with rfl | rfl | rfl <;> exact absurd (Authority.not_forbidden h hd) (by decide)

theorem hostAndPort_place (h : Hosted a.host.toList) (ht : t.authority = a.place) :
    t.hostAndPort = (a.host.toList, marked ':' (a.port.map fun n => (toString n).toList)) := by
  have huser : '@' ∉ a.place.toList.reverse := fun hc =>
    absurd (Authority.not_forbidden h (List.mem_reverse.1 hc)) (by decide)
  have hcut : cutLast? '@' a.place.toList = none := by
    have hnone := cutAt_marked huser none
    rw [marked, List.append_nil] at hnone
    rw [cutLast?, hnone, Option.map_none]
  rw [Target.hostAndPort, ht, hcut]
  exact Authority.cutHost_place h

/-! ### Requests that are sent on -/

/-- A request is sent on with another target only, which is read of the origin and what the request has behind it. -/
theorem target_of_readdress (hu : Url.ofText c.origin = .ok u) (hr : readdress r c = .ok r') :
    r' = { r with target := r'.target } ∧ Target.ofText (u.origin ++ r.target.pathAndQuery?.getD "/") = .ok r'.target := by
  unfold readdress at hr
  split at hr
  · cases hr
  · next scope hscope =>
    have horigin : scope.base.origin = u.origin := by
      unfold Config.scope Scope.of at hscope
      rw [hu] at hscope
      dsimp only at hscope
      split at hscope
      · next hof =>
        split at hof
        · cases hof
        · cases hof
          cases hscope
          rfl
      · cases hscope
    split at hr
    · cases hr
    · next target htarget =>
      cases hr
      exact ⟨rfl, horigin ▸ htarget⟩

/-- A target at a place: the scheme, the host and the port are those of the place, the path and the query those of
another target. -/
structure Moved (scheme : String) (a : Authority) (t t' : Target) : Prop where
  scheme : t'.scheme = some scheme
  authority : t'.authority = a.place
  hostAndPort : t'.hostAndPort = (a.host.toList, marked ':' (a.port.map fun n => (toString n).toList))
  path : t'.path = if t.path = "" then "/" else t.path
  query : t'.query = t.query

theorem moved_of_ofText (hweb : scheme = "http" ∨ scheme = "https") (ha : Hosted a.host.toList) (ht : Target.ofText text = .ok t)
    (htext : text ≠ "*") (ht' : Target.ofText (scheme ++ "://" ++ a.place ++ t.pathAndQuery?.getD "/") = .ok t') :
    Moved scheme a t t' := by
  obtain ⟨hscheme, hname⟩ := schemeOf_web hweb
  obtain ⟨path, query, hbehind⟩ := Target.exists_behind ht htext
  obtain ⟨-, hform⟩ := Target.ofText_eq_ok.1 ht'
  have hwhole : (scheme ++ "://" ++ a.place ++ t.pathAndQuery?.getD "/").toList =
      scheme.toList ++ ':' :: '/' :: '/' :: (a.place.toList ++ (path ++ marked '?' query)) := by
    simp [hbehind.written]
  rw [hwhole, Target.form_absolute_iff hname hscheme (fun d => endsAuthority_place ha) hbehind.head] at hform
  obtain ⟨-, -, hread⟩ := hform
  cases hread.symm.trans (hbehind.readPath_eq _ _)
  refine ⟨rfl, String.ofList_toList, hostAndPort_place ha String.ofList_toList, ?_, hbehind.query_eq⟩
  rw [← String.toList_inj, Target.path_of_absolute, hbehind.path_eq]

/-- An asterisk is read as the last character of the authority. -/
theorem eq_of_asterisk (hweb : scheme = "http" ∨ scheme = "https") (ha : Hosted a.host.toList)
    (ht' : Target.ofText (scheme ++ "://" ++ a.place ++ "*") = .ok t') : t' = ⟨some scheme, a.place ++ "*", "", none⟩ := by
  obtain ⟨hscheme, hname⟩ := schemeOf_web hweb
  obtain ⟨-, hform⟩ := Target.ofText_eq_ok.1 ht'
  have hwhole : (scheme ++ "://" ++ a.place ++ "*").toList =
      scheme.toList ++ ':' :: '/' :: '/' :: ((a.place ++ "*").toList ++ []) := by
    simp
  have hends : ∀ d ∈ (a.place ++ "*").toList, Target.endsAuthority d = false := by
    rw [String.toList_append, List.forall_mem_append]
    exact ⟨fun d => endsAuthority_place ha, List.forall_mem_singleton.2 rfl⟩
  rw [hwhole, Target.form_absolute_iff hname hscheme hends (fun _ hd => by cases hd)] at hform
  obtain ⟨-, -, hread⟩ := hform
  cases hread
  rw [String.ofList_toList]
  rfl

/-- A request that is sent on to an origin of the web keeps its method, its headers and its body, and has the scheme of the
origin. Unless its target is an asterisk it has the host and the port of the origin, the port of the scheme left out, and
its own path and query; an asterisk is put behind the port or the host. -/
theorem readdress_spec (hu : Url.ofText c.origin = .ok u) (hweb : u.scheme = "http" ∨ u.scheme = "https")
    (htext : Target.ofText text = .ok r.target) (hr : readdress r c = .ok r') : ∃ a, u.authority = some a ∧
      (∀ n ∈ a.port, defaultPort? u.scheme ≠ some n) ∧ r' = { r with target := r'.target } ∧
      (text ≠ "*" → Moved u.scheme a r.target r'.target) ∧
      (text = "*" → r'.target = ⟨some u.scheme, a.place ++ "*", "", none⟩) := by
  have hfile : isWeb u.scheme ∧ u.scheme ≠ "file" ∧ ∃ n, defaultPort? u.scheme = some n := by
    rcases hweb with h | h
    · exact h ▸ ⟨rfl, by decide, 80, rfl⟩
    · exact h ▸ ⟨rfl, by decide, 443, rfl⟩
  obtain ⟨hisWeb, hfile, n, hn⟩ := hfile
  obtain ⟨a, ha, hhost, -, hport⟩ := hosted_of_ofText hu hisWeb hfile
  obtain ⟨hrest, htarget⟩ := target_of_readdress hu hr
  rw [origin_eq ha hn] at htarget
  refine ⟨a, ha, hport, hrest, fun hne => moved_of_ofText hweb hhost htext hne htarget, ?_⟩
  rintro rfl
  have hstar : r.target = ⟨none, "", "*", none⟩ := Except.ok.inj (htext.symm.trans rfl)
  rw [hstar] at htarget
  exact eq_of_asterisk hweb hhost htarget

/-- A request to another host, with a user and a query and without a path. -/
def pathless : Request := ⟨.post, ⟨some "http", "me@e.c:81", "", some "/x=1"⟩, Keyed.empty, [0x61]⟩

theorem readdress_spec_of_pathless : ∃ r', Url.ofText "https://[::1]:8443" =
      .ok ⟨"https", some ⟨"", none, "[::1]", some 8443⟩, .segments [""], none, none⟩ ∧
    Target.ofText "HTTP://me@e.c:81?/x=1" = .ok pathless.target ∧
    readdress pathless { deployed with origin := "https://[::1]:8443" } = .ok r' ∧
    Moved "https" ⟨"", none, "[::1]", some 8443⟩ pathless.target r'.target := by
  have hu : Url.ofText "https://[::1]:8443" =
      .ok ⟨"https", some ⟨"", none, "[::1]", some 8443⟩, .segments [""], none, none⟩ := by decide +kernel
  have htext : Target.ofText "HTTP://me@e.c:81?/x=1" = .ok pathless.target := by decide +kernel
  have hr : readdress pathless { deployed with origin := "https://[::1]:8443" } =
      .ok { pathless with target := ⟨some "https", "[::1]:8443", "", some "/x=1"⟩ } := by decide +kernel
  obtain ⟨a, ha, -, -, hmoved, -⟩ := readdress_spec hu (.inr rfl) htext hr
  cases ha
  exact ⟨_, hu, htext, hr, hmoved (by decide)⟩

/-- A request for the asterisk is sent to another host than that of the origin, or to a port that is none. -/
theorem readdress_asterisk : Target.ofText "*" = .ok ⟨none, "", "*", none⟩ ∧
    (readdress ⟨.get, ⟨none, "", "*", none⟩, Keyed.empty, []⟩ deployed).map (·.target.hostAndPort) =
      .ok ("127.0.0.1".toList, ":8080*".toList) ∧
    (readdress ⟨.get, ⟨none, "", "*", none⟩, Keyed.empty, []⟩ { deployed with origin := "https://e.c" }).map
      (·.target.hostAndPort) = .ok ("e.c*".toList, []) := by
  decide +kernel

end Worker

end EdgeWorker
