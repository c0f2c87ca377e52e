import EdgeWorker.Params
import EdgeWorker.Proofs.Http.Header
import EdgeWorker.Proofs.Json.Object
import EdgeWorker.Proofs.Text.Cut

/-!
What the parameters of a request are.

* `Last` — the last pair of a name;
* `Refused` — the requests whose form is not read, because it is in parts (`form_spec`);
* `Marked` — the headers that are handed on, with their last values (`holds_headers`);
* `gather_spec` — the parameters under every name: for names of the query the query counts, for all others the form, and
  under one name of its own there is everything apart.
-/

namespace EdgeWorker.Params

open EdgeWorker.Http EdgeWorker.Json

variable {r : Request} {start : String} {k text : String} {x : Value}

/-! ### Pairs -/

section Pairs

variable {pairs : List (String × String)}

/-- The last pair of a name has this text. -/
def Last (pairs : List (String × String)) (k text : String) : Prop :=
  ∃ before after, pairs = before ++ (k, text) :: after ∧ k ∉ after.map Prod.fst

theorem last_iff : Last pairs k text ↔ pairs.reverse.lookup k = some text := by
  rw [List.lookup_eq_some_iff]
  constructor
  · rintro ⟨before, after, rfl, hk⟩
    refine ⟨after.reverse, before.reverse, by simp, fun p hp => bne_iff_ne.2 fun he => hk ?_⟩
    exact he ▸ List.mem_map_of_mem (List.mem_reverse.1 hp)
  · rintro ⟨after, before, he, hk⟩
    refine ⟨before.reverse, after.reverse, by rw [← pairs.reverse_reverse, he]; simp, fun hmem => ?_⟩
    obtain ⟨p, hp, rfl⟩ := List.mem_map.1 hmem
    exact bne_iff_ne.1 (hk p (List.mem_reverse.1 hp)) rfl

theorem lookup_reverse_eq_none : pairs.reverse.lookup k = none ↔ k ∉ pairs.map Prod.fst := by
  rw [List.lookup_eq_none_iff]
  simp only [List.mem_reverse, bne_iff_ne, List.mem_map, not_exists, not_and]
  exact forall₂_congr fun p _ => ne_comm

/-- The object of pairs has the last text of every name. -/
theorem holds_object (pairs : List (String × String)) :
    (object pairs).Holds fun k x => ∃ text, Last pairs k text ∧ x = .string text := by
  refine (holds_ofMembers _).congr fun k x => ?_
  show (pairs.map fun p => (p.1, Value.string p.2)).reverse.lookup k = some x ↔ _
  rw [← List.map_reverse, Keyed.lookup_map_snd, Option.map_eq_some_iff]
  simp only [last_iff, eq_comm]

end Pairs

/-! ### Forms -/

def contentType : HeaderName := ⟨"content-type", isName_contentType⟩

def inParts : String := "multipart/"

/-- The form of a request is not read: it is a post or a put, and the first type of its body is a text that says that the
body is in parts. -/
def Refused (r : Request) : Prop :=
  (r.method = .post ∨ r.method = .put) ∧
    ∃ v, (r.headers.values contentType).head? = some v ∧ v.IsText ∧ Text.bytes inParts <+: v.bytes

/-- A value begins with the mark if its text does. -/
theorem inParts_prefix_iff {v : HeaderValue} (h : v.text? = some text) :
    inParts.toList <+: text.toList ↔ Text.bytes inParts <+: v.bytes := by
  have hchars : (Text.bytes inParts).map (fun b => Char.ofNat b.toNat) = inParts.toList := by decide +kernel
  unfold HeaderValue.text? at h
  split at h
  · next hprintable =>
    cases h
    rw [String.toList_ofList]
    constructor
    · rintro ⟨rest, hrest⟩
      refine ⟨Text.utf8 rest, ?_⟩
      rw [← bytes_of_printable hprintable, Text.bytes, Text.bytes, String.toList_ofList, ← Text.utf8_append, hrest]
    · rintro ⟨rest, hrest⟩
      exact ⟨rest.map fun b => Char.ofNat b.toNat, by rw [← hchars, ← List.map_append, hrest]⟩
  · cases h

/-- What the type of a body is when it is read as a text. -/
theorem startsInParts_iff (r : Request) :
    (Text.after? inParts.toList ((r.headers.text? "content-type").getD "").toList).isSome ↔
      ∃ v, (r.headers.values contentType).head? = some v ∧ v.IsText ∧ Text.bytes inParts <+: v.bytes := by
  have hfirst : r.headers.text? "content-type" = (r.headers.values contentType).head?.bind HeaderValue.text? := by
    rw [← Headers.first?_eq_head?, Headers.text?, show "content-type" = contentType.text from rfl, contentType.ofText?_text]
    rfl
  have hempty : ¬ inParts.toList <+: "".toList := by decide
  rw [Text.isSome_after?, hfirst]
  cases (r.headers.values contentType).head? with
  | none => simpa using hempty
  | some v =>
    rw [Option.bind_some]
    cases htext : v.text? with
    | none =>
      have hv : ¬ v.IsText := fun h => by simpa [htext] using v.isSome_text?.2 h
      simpa [hv] using hempty
    | some text =>
      have hv : v.IsText := v.isSome_text?.1 (by rw [htext]; rfl)
      simpa [hv] using inParts_prefix_iff htext

theorem hasForm_iff {m : Method} : hasForm m = true ↔ m = .post ∨ m = .put := by simp [hasForm]

/-- The form is that of the body of a post or a put, and else empty. -/
theorem form_spec (r : Request) : Refused r ∧ form r = .error .multipart ∨
    ¬ Refused r ∧ form r = .ok (if r.method = .post ∨ r.method = .put then Url.formPairs r.body else []) := by
  unfold form Refused
  rw [← startsInParts_iff]
  by_cases hform : r.method = .post ∨ r.method = .put
  · rw [if_neg (by rw [hasForm_iff.2 hform]; nofun), if_pos hform]
    by_cases hparts : (Text.after? inParts.toList ((r.headers.text? "content-type").getD "").toList).isSome
    · exact .inl ⟨⟨hform, hparts⟩, if_pos hparts⟩
    · exact .inr ⟨fun h => hparts h.2, if_neg hparts⟩
  · have hno : hasForm r.method = false := Bool.eq_false_iff.2 fun h => hform (hasForm_iff.1 h)
    rw [hno, if_neg hform]
    exact .inr ⟨fun h => hform h.1, rfl⟩

/-! ### Headers -/

/-- A header whose name begins with a text in small letters, and the text of its last value. -/
def Marked (hs : Headers) (start k text : String) : Prop :=
  ∃ name v, name.text = k ∧ (Ascii.lower start).toList <+: k.toList ∧ (hs.values name).getLast? = some v ∧
    text = String.ofList (Text.decodeLossy v.bytes)

theorem lookup_map_filter (keep : HeaderName → Bool) (g : HeaderValue → String) (fs : List (HeaderName × HeaderValue))
    (name : HeaderName) : ((fs.filter fun f => keep f.1).map fun f => (f.1.text, g f.2)).lookup name.text =
      if keep name then (fs.lookup name).map g else none := by
  have hname {name' : HeaderName} : name.text = name'.text ↔ name = name' := by
    cases name
    cases name'
    simp
  induction fs with
  | nil => simp
  | cons f fs ih =>
    rw [List.filter_cons, Keyed.lookup_cons_eq]
    by_cases hn : name = f.1
    · subst hn
      by_cases hk : keep f.1
      · rw [if_pos hk, if_pos hk, if_pos rfl, List.map_cons, Keyed.lookup_cons_eq, if_pos rfl]
        rfl
      · rw [if_neg hk, ih, if_neg hk, if_neg hk]
    · rw [if_neg hn]
      split
      · rw [List.map_cons, Keyed.lookup_cons_eq, if_neg (mt hname.1 hn), ih]
      · exact ih

/-- The last pair of a header that is handed on has its last value. -/
theorem last_headers_iff : Last (headers r start) k text ↔ Marked r.headers start k text := by
  have hlookup (name : HeaderName) : (headers r start).reverse.lookup name.text =
      if (Text.after? (Ascii.lower start).toList name.text.toList).isSome then
        ((r.headers.values name).getLast?).map fun v => String.ofList (Text.decodeLossy v.bytes)
      else none := by
    have h := lookup_map_filter (fun name => (Text.after? (Ascii.lower start).toList name.text.toList).isSome)
      (fun v => String.ofList (Text.decodeLossy v.bytes)) r.headers.fields.reverse name
    rwa [List.filter_reverse, List.map_reverse, Headers.lookup_reverse_fields] at h
  rw [last_iff]
  constructor
  · intro h
    obtain ⟨before, after, he, -⟩ := List.lookup_eq_some_iff.1 h
    have hmem : (k, text) ∈ headers r start := List.mem_reverse.1 (he ▸ List.mem_append_right _ List.mem_cons_self)
    obtain ⟨⟨name, v⟩, -, hname⟩ := List.mem_map.1 hmem
    obtain rfl : name.text = k := congrArg Prod.fst hname
    rw [hlookup] at h
    split at h
    · next hstart =>
      obtain ⟨v, hv, htext⟩ := Option.map_eq_some_iff.1 h
      exact ⟨name, v, rfl, Text.isSome_after?.1 hstart, hv, htext.symm⟩
    · cases h
  · rintro ⟨name, v, rfl, hstart, hv, rfl⟩
    rw [hlookup, if_pos (Text.isSome_after?.2 hstart), hv]
    rfl

/-! ### Everything -/

/-- All that is gathered, part by part. -/
def parts (r : Request) (start : String) (form : List (String × String)) : Value :=
  Value.ofMembers
    [("form", object form), ("query", object (query r)), ("method", .string r.method.name),
     ("headers", object (headers r start))]

theorem holds_parts (r : Request) (start : String) (form : List (String × String)) :
    (parts r start form).Holds fun k x => k = "form" ∧ x = object form ∨ k = "query" ∧ x = object (query r) ∨
      k = "method" ∧ x = .string r.method.name ∨ k = "headers" ∧ x = object (headers r start) := by
  refine (holds_ofMembers _).congr fun k x => ?_
  simp only [List.reverse_cons, List.reverse_nil, List.nil_append, List.cons_append, Keyed.lookup_cons_eq, List.lookup_nil]
  split_ifs <;> simp_all [eq_comm]

/-- The pairs of a form and of a query, and what was gathered. -/
def merged (form query : List (String × String)) (all : Value) : Value :=
  Value.ofMembers (((form ++ query).map fun p => (p.1, .string p.2)) ++ [(gatheredKey, all)])

theorem gather_of_form {form : List (String × String)} (h : Params.form r = .ok form) :
    gather r start = .ok (merged form (query r) (parts r start form)) := by
  unfold gather
  rw [h]
  rfl

theorem member?_merged (form query : List (String × String)) (all : Value) (k : String) :
    (merged form query all).member? k = if k = gatheredKey then some all
      else ((query.reverse.lookup k).or (form.reverse.lookup k)).map Value.string := by
  rw [merged, member?_ofMembers, List.reverse_append, List.reverse_singleton, List.singleton_append, Keyed.lookup_cons_eq,
    ← List.map_reverse, Keyed.lookup_map_snd, List.reverse_append, List.lookup_append]

/-- Under the name of what was gathered there is nothing else. Under another name the query counts, and then the form. -/
theorem holds_merged (form query : List (String × String)) (all : Value) :
    (merged form query all).Holds fun k x =>
      if k = gatheredKey then x = all
      else ∃ text, (Last query k text ∨ k ∉ query.map Prod.fst ∧ Last form k text) ∧ x = .string text := by
  refine (holds_ofMembers _).congr fun k x => ?_
  rw [← member?_ofMembers, ← merged, member?_merged]
  split
  · rw [Option.some.injEq, eq_comm]
  · rw [Option.map_eq_some_iff]
    simp only [Option.or_eq_some_iff, ← last_iff, lookup_reverse_eq_none, eq_comm (a := x)]

/-- Another name is there if it is in the query or in the form. -/
theorem isSome_member?_merged (form query : List (String × String)) (all : Value) (hk : k ≠ gatheredKey) :
    ((merged form query all).member? k).isSome ↔ k ∈ query.map Prod.fst ∨ k ∈ form.map Prod.fst := by
  have hsome (pairs : List (String × String)) : (pairs.reverse.lookup k).isSome ↔ k ∈ pairs.map Prod.fst := by
    rw [← not_iff_not, Option.not_isSome_iff_eq_none, lookup_reverse_eq_none]
  rw [member?_merged, if_neg hk, Option.isSome_map, Option.isSome_or, Bool.or_eq_true, hsome, hsome]

/-- The method and the headers are found apart, whatever else was gathered. -/
theorem member?_gather {params : Value} (h : gather r start = .ok params) :
    (params.member? gatheredKey).bind (Value.member? "method") = some (.string r.method.name) ∧
      (params.member? gatheredKey).bind (Value.member? "headers") = some (object (headers r start)) := by
  cases hform : form r with
  | error e =>
    rw [gather, hform] at h
    cases h
  | ok form =>
    rw [gather_of_form hform] at h
    cases h
    have hparts := holds_parts r start form
    rw [member?_merged, if_pos rfl]
    exact ⟨hparts.member?_eq_some.2 (.inr (.inr (.inl ⟨rfl, rfl⟩))), hparts.member?_eq_some.2 (.inr (.inr (.inr ⟨rfl, rfl⟩)))⟩

/-- Gathering fails for requests whose form is refused, and for no others. Every name but one then has the last text that it
has in the query, or else in the form, which only posts and puts have. This one name has everything apart: the last texts of
the form and of the query under all their names, the method, and the last values of the headers that begin with a text in
small letters. Whatever the form and the query are, they do not change the method and the headers. -/
theorem gather_spec (r : Request) (start : String) :
    let form := if r.method = .post ∨ r.method = .put then Url.formPairs r.body else []
    let query := query r
    (gather r start = .error .multipart ↔ Refused r) ∧
    (¬ Refused r → ∃ params all formPart queryPart headersPart, gather r start = .ok params ∧
      (∀ k, k ≠ "_htmx" → ((params.member? k).isSome ↔ k ∈ query.map Prod.fst ∨ k ∈ form.map Prod.fst)) ∧
      (params.Holds fun k x => if k = "_htmx" then x = all
        else ∃ text, (Last query k text ∨ k ∉ query.map Prod.fst ∧ Last form k text) ∧ x = .string text) ∧
      (all.Holds fun k x => k = "form" ∧ x = formPart ∨ k = "query" ∧ x = queryPart ∨
        k = "method" ∧ x = .string r.method.name ∨ k = "headers" ∧ x = headersPart) ∧
      (formPart.Holds fun k x => ∃ text, Last form k text ∧ x = .string text) ∧
      (queryPart.Holds fun k x => ∃ text, Last query k text ∧ x = .string text) ∧
      (headersPart.Holds fun k x => ∃ text, Marked r.headers start k text ∧ x = .string text)) ∧
    ∀ r' params params', r'.method = r.method → r'.headers = r.headers → gather r start = .ok params →
      gather r' start = .ok params' → ∀ part ∈ ["method", "headers"],
        (params'.member? "_htmx").bind (Value.member? part) = (params.member? "_htmx").bind (Value.member? part) := by
  intro form query
  refine ⟨?_, fun hr => ?_, fun r' params params' hmethod hheaders h h' part hpart => ?_⟩
  · rcases form_spec r with ⟨hr, hform⟩ | ⟨hr, hform⟩
    · exact iff_of_true (by rw [gather, hform]) hr
    · exact iff_of_false (by rw [gather_of_form hform]; nofun) hr
  · have hform : Params.form r = .ok form := ((form_spec r).resolve_left fun h => hr h.1).2
    exact ⟨_, _, _, _, _, gather_of_form hform, fun k hk => isSome_member?_merged form query _ hk, holds_merged form query _,
      holds_parts r start form, holds_object form, holds_object query,
      (holds_object _).congr fun k x => exists_congr fun text => and_congr_left' last_headers_iff⟩
  · obtain ⟨hm, hh⟩ := member?_gather h
    obtain ⟨hm', hh'⟩ := member?_gather h'
    have hsame : headers r' start = headers r start := by rw [headers, headers, hheaders]
    rcases List.mem_pair.1 hpart with rfl | rfl
    · exact hm'.trans (by rw [hmethod]; exact hm.symm)
    · exact hh'.trans (by rw [hsame]; exact hh.symm)

/-- A post whose form has the name of what is gathered, and another name that the query has too. -/
def spoofing : Request where
  method := .post
  target := ⟨none, "", "/a", some "a=2"⟩
  headers := .ofFields (field? "hx-a" [0x78]).toList
  body := Text.bytes "a=1&_htmx=x"

/-- The query counts, and the name of what is gathered is that of an object, in which the form has this name too. -/
theorem gather_spec_of_spoofing : ∃ params all form, gather spoofing "HX-" = .ok params ∧
    params.member? "a" = some (.string "2") ∧ params.member? "_htmx" = some all ∧ all.member? "form" = some form ∧
    form.member? "a" = some (.string "1") ∧ form.member? "_htmx" = some (.string "x") := by
  have hr : ¬ Refused spoofing := by
    rintro ⟨-, v, hv, -⟩
    have hnone : (spoofing.headers.values contentType).head? = none := by decide +kernel
    cases hnone.symm.trans hv
  have hform : Url.formPairs spoofing.body = [("a", "1"), ("_htmx", "x")] := by decide +kernel
  have hquery : query spoofing = [("a", "2")] := by decide +kernel
  obtain ⟨-, hgather, -⟩ := gather_spec spoofing "HX-"
  obtain ⟨params, all, form, _, _, hparams, -, hmerged, hall, hforms, -⟩ := hgather hr
  rw [if_pos (.inl rfl), hform] at hforms
  rw [hquery] at hmerged
  refine ⟨params, all, form, hparams, ?_, ?_, ?_, ?_, ?_⟩
  · exact hmerged.member?_eq_some.2 ⟨"2", .inl ⟨[], [], rfl, by simp⟩, rfl⟩
  · exact hmerged.member?_eq_some.2 (if_pos rfl ▸ rfl)
  · exact hall.member?_eq_some.2 (.inl ⟨rfl, rfl⟩)
  · exact hforms.member?_eq_some.2 ⟨"1", ⟨[], _, rfl, by decide⟩, rfl⟩
  · exact hforms.member?_eq_some.2 ⟨"x", ⟨[_], [], rfl, by simp⟩, rfl⟩

end EdgeWorker.Params
