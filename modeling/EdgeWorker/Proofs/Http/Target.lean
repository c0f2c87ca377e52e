import EdgeWorker.Http.Target
import EdgeWorker.Proofs.Ascii
import EdgeWorker.Proofs.Text.Cut

/-!
The texts that are request targets.

* `Target.Form cs t` — a text of one of the four forms, and the target that it stands for; just these are read
  (`ofText_eq_ok`);
* `ofText_of_fragment` — a fragment behind a text makes no difference to the target;
* `text_of_ofText_text` — the written form of a target is read as a target with this written form;
* `hash_not_mem_text` — the written form has no number sign.
-/

namespace EdgeWorker

namespace Http.Target

open EdgeWorker.Text

variable {scheme : Option String} {authority cs path : List Char} {query fragment : Option (List Char)} {t t' : Target}

/-! ### Paths -/

theorem ne_of_isPathChar {c : Char} (h : isPathChar c) : c ≠ '?' ∧ c ≠ '#' := by
  refine ⟨?_, ?_⟩
  · rintro rfl
    exact absurd h (by decide)
  · rintro rfl
    exact absurd h (by decide)

theorem ne_of_isQueryChar {c : Char} (h : isQueryChar c) : c ≠ '#' := by
  rintro rfl
  exact absurd h (by decide)

/-- The path and the query of a text: what stands before a number sign, cut at the first question mark. -/
theorem readPath_eq_ok : readPath scheme authority cs = .ok t ↔ ∃ path query fragment,
    cs = path ++ (marked '?' query ++ marked '#' fragment) ∧ (∀ c ∈ path, isPathChar c) ∧
      (∀ q ∈ query, ∀ c ∈ q, isQueryChar c) ∧
      t = ⟨scheme, String.ofList authority, String.ofList path, query.map String.ofList⟩ := by
  constructor
  · intro h
    obtain ⟨path, back, rfl, hpath, hback⟩ := exists_front (fun c => c != '?' && c != '#') cs
    unfold readPath at h
    simp only [takeWhile_front hpath hback, List.drop_left] at h
    split at h
    · cases h
    · next hvalid =>
      replace hvalid : ∀ c ∈ path, isPathChar c := by simpa using hvalid
      split at h
      · next rest =>
        obtain ⟨q, back, rfl, hq, hback⟩ := exists_front (fun c => c != '#') rest
        simp only [takeWhile_front hq hback] at h
        split at h
        · next hquery =>
          cases h
          refine ⟨path, some q, ?_⟩
          replace hquery : ∀ c ∈ q, isQueryChar c := by simpa using hquery
          cases back with
          | nil => exact ⟨none, by simp [marked], hvalid, by simpa using hquery, rfl⟩
          | cons c back =>
            obtain rfl : c = '#' := by simpa using hback
            exact ⟨some back, by simp [marked], hvalid, by simpa using hquery, rfl⟩
        · cases h
      · next hmark =>
        cases h
        refine ⟨path, none, ?_⟩
        cases back with
        | nil => exact ⟨none, by simp [marked], hvalid, by simp, rfl⟩
        | cons c back =>
          obtain rfl : c = '#' := by
            by_contra hc
            obtain rfl : c = '?' := by simpa [hc] using hback
            exact hmark back rfl
          exact ⟨some back, by simp [marked], hvalid, by simp, rfl⟩
  · rintro ⟨path, query, fragment, rfl, hpath, hquery, rfl⟩
    have hfront : ∀ c ∈ path, (c != '?' && c != '#') = true := fun c hc => by
      simpa using ne_of_isPathChar (hpath c hc)
    have hback : ∀ c ∈ (marked '?' query ++ marked '#' fragment).head?, (c != '?' && c != '#') = false := by
      cases query <;> cases fragment <;> simp [marked]
    unfold readPath
    simp only [takeWhile_front hfront hback, List.drop_left]
    rw [if_neg (by simpa using hpath)]
    cases query with
    | none => cases fragment <;> rfl
    | some q =>
      have hq : ∀ c ∈ q, (c != '#') = true := fun c hc => by simpa using ne_of_isQueryChar (hquery q rfl c hc)
      have hend : ∀ c ∈ (marked '#' fragment).head?, (c != '#') = false := by cases fragment <;> simp [marked]
      have hread : (q.append (marked '#' fragment)).takeWhile (· != '#') = q := takeWhile_front hq hend
      show (if ((q.append (marked '#' fragment)).takeWhile (· != '#')).all isQueryChar then
        Except.ok (Target.mk scheme _ _ (some (String.ofList ((q.append (marked '#' fragment)).takeWhile (· != '#')))))
        else _) = _
      rw [hread, if_pos (by simpa using hquery q rfl)]
      rfl

/-! ### Schemes -/

theorem ne_of_isSchemeChar {c : Char} (h : isSchemeChar c) : c ≠ ':' ∧ c ≠ '/' ∧ c ≠ '#' ∧ c ≠ '*' := by
  refine ⟨?_, ?_, ?_, ?_⟩ <;> rintro rfl <;> exact absurd h (by decide)

def schemeOf (name : List Char) : Except TargetError String :=
  if Ascii.sameLetters name "http".toList then .ok "http"
  else if Ascii.sameLetters name "https".toList then .ok "https"
  else if maxScheme < name.length then .error .schemeTooLong
  else .ok (String.ofList name)

/-- Where a name without a colon stands before the slashes, the mark of a scheme is found there if it is this name. -/
theorem afterLetters_slashes {name rest m : List Char} {mark : String} (hname : ':' ∉ name)
    (hmark : mark.toList = m ++ [':', '/', '/']) (hm : ':' ∉ m.map Ascii.toLower) :
    afterLetters? mark (name ++ ':' :: '/' :: '/' :: rest) = if Ascii.sameLetters name m then some rest else none := by
  have hcolon : ':' ∉ name.map Ascii.toLower := fun h => by
    obtain ⟨c, hc, hl⟩ := List.mem_map.1 h
    exact hname ((Ascii.toLower_eq_iff rfl).1 hl ▸ hc)
  by_cases h : Ascii.sameLetters name m
  · have hlength : name.length = m.length := by simpa using congrArg List.length (beq_iff_eq.1 h)
    have hn : mark.toList.length = (name ++ [':', '/', '/']).length := by rw [hmark]; simp [hlength]
    have hsame : Ascii.sameLetters (name ++ [':', '/', '/']) mark.toList := by
      rw [hmark, Ascii.sameLetters, List.map_append, List.map_append, beq_iff_eq.1 h]
      simp
    rw [show name ++ ':' :: '/' :: '/' :: rest = name ++ [':', '/', '/'] ++ rest by simp]
    unfold afterLetters?
    simp only [hn, List.take_left, List.drop_left, hsame, h, if_true]
  · rw [if_neg h]
    unfold afterLetters?
    refine if_neg fun hsame => h ?_
    -- the texts agree up to the first colon of each
    have hmap := beq_iff_eq.1 hsame
    rw [List.map_take, hmark, List.map_append, List.map_append] at hmap
    have hjoin := List.take_append_drop (m ++ [':', '/', '/']).length
      (name.map Ascii.toLower ++ (':' :: '/' :: '/' :: rest).map Ascii.toLower)
    rw [hmap, List.append_assoc] at hjoin
    simp only [List.map_cons, List.cons_append, (Ascii.toLower_eq_iff rfl).2 (Eq.refl ':')] at hjoin
    exact beq_iff_eq.2 (front_eq hcolon hm hjoin.symm)

theorem colon_not_mem {name : List Char} (h : ∀ c ∈ name, isSchemeChar c) : ':' ∉ name :=
  fun hc => (ne_of_isSchemeChar (h _ hc)).1 rfl

/-- A scheme is what stands before a colon and two slashes. -/
theorem cutScheme_append {name rest : List Char} (hname : ∀ c ∈ name, isSchemeChar c) (hrest : rest ≠ []) :
    cutScheme (name ++ ':' :: '/' :: '/' :: rest) = (schemeOf name).map fun s => (some s, rest) := by
  have hcolon := colon_not_mem hname
  have hfront : (name ++ ':' :: '/' :: '/' :: rest).takeWhile isSchemeChar = name := by
    exact takeWhile_front hname fun c hc => by cases hc; rfl
  have hlength : ¬ (name ++ ':' :: '/' :: '/' :: rest).length ≤ 3 := by
    have := List.length_pos_iff.2 hrest
    simp
    omega
  unfold cutScheme schemeOf
  rw [afterLetters_slashes hcolon (m := "http".toList) rfl (by decide)]
  by_cases hhttp : Ascii.sameLetters name "http".toList
  · rw [if_pos hhttp, if_pos hhttp]
    rfl
  · rw [if_neg hhttp, if_neg hhttp, afterLetters_slashes hcolon (m := "https".toList) rfl (by decide)]
    by_cases hhttps : Ascii.sameLetters name "https".toList
    · rw [if_pos hhttps, if_pos hhttps]
      rfl
    · rw [if_neg hhttps, if_neg hhttps]
      simp only [hfront]
      rw [List.drop_left, show after? [':', '/', '/'] (':' :: '/' :: '/' :: rest) = some rest from rfl]
      dsimp only
      rw [if_neg hlength]
      by_cases hlong : maxScheme < name.length
      · rw [if_pos hlong, if_pos hlong]
        rfl
      · rw [if_neg hlong, if_neg hlong]
        rfl

/-- What stands before the rest behind a mark is the mark in letters of any case. -/
theorem eq_of_afterLetters {mark : String} {m rest : List Char} (hmark : mark.toList = m ++ [':', '/', '/'])
    (hm : ∀ c ∈ m, Ascii.isLower (Ascii.toLower c)) (h : afterLetters? mark cs = some rest) :
    ∃ name, cs = name ++ ':' :: '/' :: '/' :: rest ∧ ∀ c ∈ name, isSchemeChar c := by
  unfold afterLetters? at h
  dsimp only at h
  split at h
  · next hsame =>
    cases h
    have hmap := beq_iff_eq.1 hsame
    rw [hmark, List.map_append] at hmap
    obtain ⟨name, slashes, htake, hname, hslashes⟩ := List.map_eq_append_iff.1 hmap
    have hmarks : ∀ c ∈ [':', '/', '/'], Ascii.isLetter c = false := by simp [Ascii.isLetter, Ascii.isLower, Ascii.isUpper]
    obtain rfl : slashes = [':', '/', '/'] := (Ascii.map_toLower_eq_iff hmarks).1 hslashes
    refine ⟨name, ?_, fun c hc => ?_⟩
    · have hjoin := List.take_append_drop (m ++ [':', '/', '/']).length cs
      rw [htake, List.append_assoc] at hjoin
      rw [hmark]
      exact hjoin.symm
    · obtain ⟨d, hd, hcd⟩ := List.mem_map.1 (hname ▸ List.mem_map_of_mem hc)
      have hletter := Ascii.isLetter_of_toLower hcd.symm (hm d hd)
      simp [isSchemeChar, Ascii.isAlphanumeric, hletter]
  · cases h

/-- A text with a scheme is one with a name before a colon and two slashes. -/
theorem eq_of_cutScheme {s : String} {rest : List Char} (h : cutScheme cs = .ok (some s, rest)) :
    ∃ name, cs = name ++ ':' :: '/' :: '/' :: rest ∧ ∀ c ∈ name, isSchemeChar c := by
  unfold cutScheme at h
  split at h
  · next rest' hhttp =>
    cases h
    exact eq_of_afterLetters (m := "http".toList) rfl (List.all_eq_true.1 rfl) hhttp
  · split at h
    · next rest' hhttps =>
      cases h
      exact eq_of_afterLetters (m := "https".toList) rfl (List.all_eq_true.1 rfl) hhttps
    · obtain ⟨name, back, rfl, hname, hback⟩ := exists_front isSchemeChar cs
      simp only [takeWhile_front hname hback, List.drop_left] at h
      split at h
      · cases h
      · next rest' hafter =>
        split at h
        · cases h
        · split at h
          · cases h
          · cases h
            exact ⟨name, congrArg (name ++ ·) (after?_eq_some_iff.1 hafter), hname⟩

theorem eq_of_cutScheme_none {rest : List Char} (h : cutScheme cs = .ok (none, rest)) : rest = cs := by
  unfold cutScheme at h
  dsimp only at h
  repeat' split at h
  all_goals first | (cases h; rfl) | cases h

/-! ### Texts -/

theorem cutAuthority_eq_ok {a rest : List Char} : cutAuthority cs = .ok (a, rest) ↔ cs = a ++ rest ∧
    (∀ c ∈ a, endsAuthority c = false) ∧ (∀ c ∈ rest.head?, endsAuthority c) ∧ checkAuthority a = .ok () := by
  have hcut {a rest : List Char} (ha : ∀ c ∈ a, endsAuthority c = false) (hrest : ∀ c ∈ rest.head?, endsAuthority c) :
      (a ++ rest).takeWhile (fun c => !endsAuthority c) = a :=
    takeWhile_front (fun c hc => by rw [ha c hc]; rfl) fun c hc => by rw [hrest c hc]; rfl
  constructor
  · intro h
    obtain ⟨front, back, rfl, hfront, hback⟩ := exists_front (fun c => !endsAuthority c) cs
    replace hfront : ∀ c ∈ front, endsAuthority c = false := by simpa using hfront
    replace hback : ∀ c ∈ back.head?, endsAuthority c := by simpa using hback
    unfold cutAuthority at h
    simp only [hcut hfront hback, List.drop_left] at h
    split at h
    · cases h
    · next hcheck =>
      cases h
      exact ⟨rfl, hfront, hback, hcheck⟩
  · rintro ⟨rfl, ha, hrest, hcheck⟩
    unfold cutAuthority
    simp only [hcut ha hrest, List.drop_left, hcheck]

/-- The texts that are targets: an asterisk, a path, an authority, and an address. -/
inductive Form : List Char → Target → Prop
  | asterisk : Form ['*'] ⟨none, "", "*", none⟩
  | path {cs : List Char} {t : Target} : readPath none [] ('/' :: cs) = .ok t → Form ('/' :: cs) t
  | authority {a : List Char} : a ≠ [] → a ≠ ['*'] → cutScheme a = .ok (none, a) → (∀ c ∈ a, endsAuthority c = false) →
      checkAuthority a = .ok () → Form a ⟨none, String.ofList a, "", none⟩
  | absolute {name a cs : List Char} {s : String} {t : Target} : (∀ c ∈ name, isSchemeChar c) → schemeOf name = .ok s →
      a ≠ [] → (∀ c ∈ a, endsAuthority c = false) → checkAuthority a = .ok () → (∀ c ∈ cs.head?, endsAuthority c) →
      readPath (some s) a cs = .ok t → Form (name ++ ':' :: '/' :: '/' :: (a ++ cs)) t

/-- Just these texts are read, as far as they are not too long. -/
theorem ofText_eq_ok {text : String} :
    ofText text = .ok t ↔ (utf8 text.toList).length ≤ maxSize ∧ Form text.toList t := by
  unfold ofText
  generalize text.toList = cs
  dsimp only
  by_cases hsize : maxSize < (utf8 cs).length
  · rw [if_pos hsize]
    exact ⟨nofun, fun h => absurd h.1 (by omega)⟩
  rw [if_neg hsize, and_iff_right (by omega)]
  constructor
  · intro h
    split at h
    · cases h
    · cases h
      exact .asterisk
    · exact .path h
    · next hempty hasterisk hslash =>
      split at h
      · cases h
      · next scheme rest hscheme =>
        split at h
        · cases h
        · next a rest' hauthority =>
          obtain ⟨rfl, ha, hrest, hcheck⟩ := cutAuthority_eq_ok.1 hauthority
          cases scheme with
          | none =>
            dsimp only at h
            obtain rfl := eq_of_cutScheme_none hscheme
            cases rest' with
            | nil =>
              cases h
              rw [List.append_nil] at hscheme hempty hasterisk ⊢
              exact .authority (fun h => hempty h) (fun h => hasterisk h) hscheme ha hcheck
            | cons c rest' =>
              rw [List.isEmpty_cons, if_neg nofun] at h
              split at h
              · cases h
              · cases h
          | some s =>
            dsimp only at h
            split at h
            · cases h
            · next hne =>
              obtain ⟨name, rfl, hname⟩ := eq_of_cutScheme hscheme
              have ha' : a ≠ [] := by simpa using hne
              rw [cutScheme_append hname (by simp [ha'])] at hscheme
              have hs : schemeOf name = .ok s := by
                cases hs : schemeOf name with
                | error e => rw [hs] at hscheme; cases hscheme
                | ok s' => rw [hs] at hscheme; cases hscheme; rfl
              exact .absolute hname hs ha' ha hcheck hrest h
  · intro h
    cases h with
    | asterisk => rfl
    | path h => exact h
    | authority hempty hasterisk hscheme ha hcheck =>
      have hcut := cutAuthority_eq_ok.2 ⟨(List.append_nil cs).symm, ha, nofun, hcheck⟩
      split
      · exact absurd rfl hempty
      · exact absurd rfl hasterisk
      · exact absurd (ha _ List.mem_cons_self) (by decide)
      · rw [hscheme]
        dsimp only
        rw [hcut]
        rfl
    | @absolute name a path s _ hname hs ha hfree hcheck hpath h =>
      have hcut := cutAuthority_eq_ok.2 ⟨rfl, hfree, hpath, hcheck⟩
      have hscheme := cutScheme_append hname (show a ++ path ≠ [] by simp [ha])
      rw [hs] at hscheme
      split
      · next he => simp at he
      · next he => cases name <;> simp at he
      · next he =>
        cases name with
        | nil => simp at he
        | cons c name =>
          obtain rfl : c = '/' := by simpa using (List.cons.inj he).1
          exact absurd (hname _ List.mem_cons_self) (by decide)
      · rw [hscheme]
        dsimp only [Except.map]
        rw [hcut]
        dsimp only
        rw [if_neg (by simpa using ha)]
        exact h

/-! ### Fragments -/

theorem hash_not_mem_marked (hquery : ∀ q ∈ query, ∀ c ∈ q, isQueryChar c) : '#' ∉ marked '?' query := by
  cases query with
  | none => exact nofun
  | some q => simpa [marked] using fun h => ne_of_isQueryChar (hquery q rfl '#' h) rfl

theorem hash_not_mem_path (hpath : ∀ c ∈ path, isPathChar c) : '#' ∉ path :=
  fun h => (ne_of_isPathChar (hpath '#' h)).2 rfl

/-- What ends an authority is the path, or else a mark. -/
theorem endsAuthority_head (h : ∀ c ∈ (path ++ (marked '?' query ++ marked '#' fragment)).head?, endsAuthority c)
    (fragment' : Option (List Char)) :
    ∀ c ∈ (path ++ (marked '?' query ++ marked '#' fragment')).head?, endsAuthority c := by
  cases path with
  | cons c path => exact h
  | nil => cases query <;> cases fragment' <;> simp [marked, endsAuthority]

/-- A fragment makes no difference. -/
theorem Form.of_fragment {front back : List Char} (h : Form (front ++ '#' :: back) t) : Form front t := by
  generalize hcs : front ++ '#' :: back = cs at h
  cases h with
  | asterisk => cases front <;> simp at hcs
  | @path cs _ h =>
    obtain ⟨path, query, fragment, he, hpath, hquery, rfl⟩ := readPath_eq_ok.1 h
    have hbody : '#' ∉ path ++ marked '?' query := by
      simpa using ⟨hash_not_mem_path hpath, hash_not_mem_marked hquery⟩
    obtain ⟨fragment', hfront⟩ := exists_part hbody (by rw [hcs, he, List.append_assoc])
    rw [List.append_assoc] at hfront
    cases front with
    | nil => cases hcs
    | cons c front =>
      obtain rfl : c = '/' := (List.cons.inj hcs).1
      exact .path (readPath_eq_ok.2 ⟨path, query, fragment', hfront, hpath, hquery, rfl⟩)
  | authority _ _ _ hfree _ => exact absurd (hfree '#' (by rw [← hcs]; simp)) (by decide)
  | @absolute name a cs s _ hname hs ha hfree hcheck hends h =>
    obtain ⟨path, query, fragment, rfl, hpath, hquery, rfl⟩ := readPath_eq_ok.1 h
    have hbody : '#' ∉ name ++ ':' :: '/' :: '/' :: (a ++ (path ++ marked '?' query)) := by
      have hnot : '#' ∉ name := fun h => (ne_of_isSchemeChar (hname _ h)).2.2.1 rfl
      have hnot' : '#' ∉ a := fun h => absurd (hfree _ h) (by decide)
      simpa using ⟨hnot, hnot', hash_not_mem_path hpath, hash_not_mem_marked hquery⟩
    have hwhole : front ++ '#' :: back = name ++ ':' :: '/' :: '/' :: (a ++ (path ++ marked '?' query)) ++
        marked '#' fragment := hcs.trans (by simp)
    obtain ⟨fragment', rfl⟩ := exists_part hbody hwhole
    have hform := Form.absolute hname hs ha hfree hcheck (endsAuthority_head hends fragment')
      (readPath_eq_ok.2 ⟨path, query, fragment', rfl, hpath, hquery, rfl⟩)
    simpa using hform

theorem length_utf8_append (cs ds : List Char) : (utf8 (cs ++ ds)).length = (utf8 cs).length + (utf8 ds).length := by
  simp [utf8]

/-- A fragment behind a text makes no difference to its target. -/
theorem ofText_of_fragment {front text : String} {back : List Char} (htext : text.toList = front.toList ++ '#' :: back)
    (h : ofText text = .ok t) : ofText front = .ok t := by
  obtain ⟨hsize, hform⟩ := ofText_eq_ok.1 h
  rw [htext] at hsize hform
  rw [length_utf8_append] at hsize
  exact ofText_eq_ok.2 ⟨by omega, hform.of_fragment⟩

/-! ### Written targets -/

def slashed (path : List Char) : List Char := if path = [] then ['/'] else path

theorem text_of_path (hpath : path ≠ []) (query : Option (List Char)) :
    (Target.mk none "" (String.ofList path) (query.map String.ofList)).text.toList = path ++ marked '?' query := by
  have hne : String.ofList path ≠ "" := fun h => hpath (by simpa using congrArg String.toList h)
  cases query <;> simp [text, Target.path, hasPath, hne, marked]

theorem path_of_absolute (s authority : String) (path : List Char) (query : Option String) :
    (Target.mk (some s) authority (String.ofList path) query).path.toList = slashed path := by
  by_cases hpath : path = []
  · subst hpath
    simp [Target.path, slashed, hasPath]
  · have hne : String.ofList path ≠ "" := fun h => hpath (by simpa using congrArg String.toList h)
    simp [Target.path, slashed, hne, hpath]

theorem text_of_absolute (s : String) (a path : List Char) (query : Option (List Char)) :
    (Target.mk (some s) (String.ofList a) (String.ofList path) (query.map String.ofList)).text.toList =
      s.toList ++ ':' :: '/' :: '/' :: (a ++ (slashed path ++ marked '?' query)) := by
  unfold text
  cases query <;> simp [path_of_absolute, marked]

/-- A scheme as it is written is written so again. -/
theorem schemeOf_toList {name : List Char} {s : String} (hname : ∀ c ∈ name, isSchemeChar c) (h : schemeOf name = .ok s) :
    schemeOf s.toList = .ok s ∧ ∀ c ∈ s.toList, isSchemeChar c := by
  unfold schemeOf at h
  split at h
  · cases h
    exact ⟨rfl, List.all_eq_true.1 rfl⟩
  · split at h
    · cases h
      exact ⟨rfl, List.all_eq_true.1 rfl⟩
    · next hhttp hhttps =>
      split at h
      · cases h
      · next hlong =>
        cases h
        rw [String.toList_ofList]
        exact ⟨by rw [schemeOf, if_neg hhttp, if_neg hhttps, if_neg hlong], hname⟩

theorem isPathChar_slashed (hpath : ∀ c ∈ path, isPathChar c) : ∀ c ∈ slashed path, isPathChar c := by
  unfold slashed
  split
  · exact List.forall_mem_singleton.2 rfl
  · exact hpath

theorem endsAuthority_slashed (h : ∀ c ∈ (path ++ (marked '?' query ++ marked '#' fragment)).head?, endsAuthority c) :
    ∀ c ∈ (slashed path ++ marked '?' query).head?, endsAuthority c := by
  cases path with
  | nil => simp [slashed, endsAuthority]
  | cons c path => simpa [slashed] using h

theorem slashed_slashed (path : List Char) : slashed (slashed path) = slashed path := by
  unfold slashed
  by_cases hpath : path = []
  · rw [if_pos hpath, if_neg nofun]
  · rw [if_neg hpath, if_neg hpath]

/-- A text that begins with a slash has it in its path. -/
theorem exists_slash (h : '/' :: cs = path ++ (marked '?' query ++ marked '#' fragment)) : ∃ rest, path = '/' :: rest := by
  cases path with
  | nil => cases query <;> cases fragment <;> cases h
  | cons c rest =>
    obtain rfl : '/' = c := (List.cons.inj h).1
    exact ⟨rest, rfl⟩

/-- What a target is written as is of the same form, and is written so again. -/
theorem Form.text (h : Form cs t) : ∃ t', Form t.text.toList t' ∧ t'.text = t.text := by
  cases h with
  | asterisk => exact ⟨_, .asterisk, rfl⟩
  | @path cs _ h =>
    obtain ⟨path, query, fragment, he, hpath, hquery, rfl⟩ := readPath_eq_ok.1 h
    obtain ⟨rest, rfl⟩ := exists_slash he
    refine ⟨_, ?_, rfl⟩
    rw [String.ofList_nil, text_of_path (List.cons_ne_nil '/' rest) query]
    exact .path (readPath_eq_ok.2 ⟨'/' :: rest, query, none, by simp [marked], hpath, hquery, by rw [String.ofList_nil]⟩)
  | authority hempty hasterisk hscheme ha hcheck =>
    have htext : (Target.mk none (String.ofList cs) "" none).text.toList = cs := by simp [Target.text, Target.path, hasPath]
    refine ⟨_, ?_, rfl⟩
    rw [htext]
    exact .authority hempty hasterisk hscheme ha hcheck
  | @absolute name a path s _ hname hs ha hfree hcheck hends h =>
    obtain ⟨path, query, fragment, rfl, hpath, hquery, rfl⟩ := readPath_eq_ok.1 h
    obtain ⟨hs', hname'⟩ := schemeOf_toList hname hs
    refine ⟨⟨some s, String.ofList a, String.ofList (slashed path), query.map String.ofList⟩, ?_, ?_⟩
    · rw [text_of_absolute]
      exact .absolute hname' hs' ha hfree hcheck (endsAuthority_slashed hends)
        (readPath_eq_ok.2 ⟨slashed path, query, none, by simp [marked], isPathChar_slashed hpath, hquery, rfl⟩)
    · rw [← String.toList_inj, text_of_absolute, text_of_absolute, slashed_slashed]

/-- The written form of a target, if it is read, is read as a target with the same written form. -/
theorem text_of_ofText_text {text : String} (h : ofText text = .ok t) (h' : ofText t.text = .ok t') : t'.text = t.text := by
  obtain ⟨t'', hform, htext⟩ := (ofText_eq_ok.1 h).2.text
  have hread := ofText_eq_ok.2 ⟨(ofText_eq_ok.1 h').1, hform⟩
  cases h'.symm.trans hread
  exact htext

/-- What has the form of a target and no number sign in front of a path is written without one. -/
theorem Form.hash_not_mem (h : Form cs t) : '#' ∉ t.text.toList := by
  cases h with
  | asterisk => decide
  | @path cs _ h =>
    obtain ⟨path, query, fragment, he, hpath, hquery, rfl⟩ := readPath_eq_ok.1 h
    obtain ⟨rest, hslash⟩ := exists_slash he
    rw [String.ofList_nil, text_of_path (by rw [hslash]; exact List.cons_ne_nil '/' rest)]
    simpa using ⟨hash_not_mem_path hpath, hash_not_mem_marked hquery⟩
  | authority _ _ _ hfree _ =>
    simpa [Target.text, Target.path, hasPath] using fun h => absurd (hfree _ h) (by decide)
  | @absolute name a path s _ hname hs ha hfree hcheck hends h =>
    obtain ⟨path, query, fragment, rfl, hpath, hquery, rfl⟩ := readPath_eq_ok.1 h
    have hscheme : '#' ∉ s.toList := fun h => (ne_of_isSchemeChar ((schemeOf_toList hname hs).2 _ h)).2.2.1 rfl
    have hauthority : '#' ∉ a := fun h => absurd (hfree _ h) (by decide)
    rw [text_of_absolute]
    simpa using ⟨hscheme, hauthority, hash_not_mem_path (isPathChar_slashed hpath), hash_not_mem_marked hquery⟩

/-- No target has a fragment. -/
theorem hash_not_mem_text {text : String} (h : ofText text = .ok t) : '#' ∉ t.text.toList := (ofText_eq_ok.1 h).2.hash_not_mem

end Http.Target
end EdgeWorker
