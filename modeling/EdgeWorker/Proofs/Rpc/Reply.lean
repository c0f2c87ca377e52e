import EdgeWorker.Proofs.Rpc.Dispatched

/-!
What a caller makes of a reply, told from the members of its object.

* `messageIn?` — the message in an error, and `told` — what the caller is told of it;
* `told_eq_iff` — a message is passed over only if it comes with a code that is no integer of 64 bits;
* `text_of_reader` — whatever the error, this is how it is told;
* `Readable` — the objects that are replies (`isSome_reader`);
* `invoke_replied` — the result of a call that is answered with an object.
-/

namespace EdgeWorker.Rpc

open EdgeWorker.Action EdgeWorker.Host EdgeWorker.Json

variable {members : List (Option String × Tree)} {depth : Nat} {t : Tree} {e : Value} {name : String}

/-! ### Errors -/

/-- The message in an error: the error itself if it is a string, or else its member of that name if that is a string. -/
def messageIn? : Value → Option String
  | .string s => some s
  | e => (e.member? "message").bind Value.string?

/-- Whether a value has no code, or one that is null or an integer of 64 bits with a sign. -/
def hasPlainCode (e : Value) : Bool := (e.member? "code").all (Value.isIntOrNull leastInt greatestSigned)

/-- What a caller is told of an error: its message, or its JSON text if there is none, or if it comes with another code. -/
def told (e : Value) : String := if hasPlainCode e then (messageIn? e).getD e.text else e.text

theorem told_eq (e : Value) : told e = (if hasPlainCode e then messageIn? e else none).getD e.text := by
  unfold told
  split <;> rfl

theorem told_of_messageIn? (h : messageIn? e = none) : told e = e.text := by
  rw [told_eq, h, ite_self, Option.getD_none]

/-- The message in an error is what the caller is told, unless it comes with a code that is none. -/
theorem told_eq_iff : told e = (messageIn? e).getD e.text ↔ hasPlainCode e ∨ messageIn? e = none := by
  refine ⟨fun h => ?_, fun h => ?_⟩
  · by_contra hne
    rw [not_or] at hne
    obtain ⟨s, hs⟩ := Option.ne_none_iff_exists'.1 hne.2
    have hmember : e.member? "message" = some (.string s) := by
      cases e with
      | string x => exact absurd rfl hne.1
      | object ms =>
        obtain ⟨v, hv, hstring⟩ := Option.bind_eq_some_iff.1 hs
        cases v with
        | string x =>
          cases hstring
          exact hv
        | _ => cases hstring
      | _ => cases hs
    rw [told, if_neg hne.1, hs, Option.getD_some] at h
    exact Nat.ne_of_gt (length_lt_text hmember) (congrArg String.length h)
  · rcases h with h | h
    · rw [told, if_pos h]
    · rw [told_of_messageIn? h, h, Option.getD_none]

/-- An error with a message is read if its code is an integer or null. -/
theorem text_of_readCoded (hdistinct : Tree.Distinct members) (h : (Tree.object members).value? (depth + 1) = some e) :
    (Failure.readCoded (depth + 1) (.object members)).map Failure.text = if hasPlainCode e then messageIn? e else none := by
  have hmember := member?_of_value? hdistinct h
  have hmessageIn : messageIn? e = (e.member? "message").bind Value.string? := by
    cases kind_of_value? h
    rfl
  rw [Tree.value?] at h
  obtain ⟨vs, hvs, -⟩ := Option.map_eq_some_iff.1 h
  obtain ⟨hnamed, hvalues⟩ := named_of_memberValues? hvs
  have hvalue {t : Tree} {name : String} (ht : Tree.memberIn? name members = some t) : ∃ v, t.value? depth = some v :=
    Option.isSome_iff_exists.1 (hvalues _ (Tree.mem_of_memberIn? ht))
  obtain ⟨fs, hfs, hfound⟩ := Fields.exists_fields ["message", "code"] depth hnamed hdistinct
  have hmessage : fs.required "message" Reader.string = messageIn? e := by
    rw [hfound.required_eq (by simp), hmessageIn, hmember]
    cases ht : Tree.memberIn? "message" members with
    | none => rfl
    | some t =>
      obtain ⟨v, hv⟩ := hvalue ht
      rw [Option.bind_some, Option.bind_some, hv]
      exact string_of_value? hv
  have hcode : (fs.defaulted "code" (Reader.nullable (Reader.int leastInt greatestSigned)) none).isSome = hasPlainCode e := by
    rw [hfound.defaulted_eq (by simp), hasPlainCode, hmember]
    cases ht : Tree.memberIn? "code" members with
    | none => rfl
    | some t =>
      obtain ⟨v, hv⟩ := hvalue ht
      rw [Option.bind_some, hv]
      exact isSome_nullable_int _ _ hv
  rw [Failure.readCoded, hfs]
  dsimp only
  rw [hmessage, ← hcode]
  cases messageIn? e with
  | none => exact (ite_self _).symm
  | some s => cases fs.defaulted "code" (Reader.nullable (Reader.int leastInt greatestSigned)) none <;> rfl

theorem reader_string (s : String) : Failure.reader depth (.string (some s)) = some (.plain s) := by
  have hvalue : (Tree.string (some s)).value? depth = some (.string s) := by
    rw [Tree.value?]
    rfl
  rw [Failure.reader, Reader.buffered, hvalue]
  rfl

/-- Whatever else has a value is read as an error. -/
theorem reader_of_value? (h : t.value? depth = some e) (hstring : ∀ s, t ≠ .string (some s)) :
    Failure.reader depth t = some ((Failure.readCoded depth t).getD (.other e)) := by
  rw [Failure.reader, Reader.buffered, h, Option.isSome_some, if_pos rfl]
  split
  · next s => exact absurd rfl (hstring s)
  · rw [h]
    cases Failure.readCoded depth t <;> rfl

/-- What the caller is told of an error. -/
theorem text_of_reader (h : t.value? depth = some e) (hdistinct : ∀ ms, t = .object ms → Tree.Distinct ms) :
    ∃ f, Failure.reader depth t = some f ∧ f.text = told e := by
  by_cases hstring : ∃ s, t = .string (some s)
  · obtain ⟨s, rfl⟩ := hstring
    rw [Tree.value?] at h
    cases h
    exact ⟨_, reader_string s, rfl⟩
  · refine ⟨_, reader_of_value? h fun s hs => hstring ⟨s, hs⟩, ?_⟩
    cases kind_of_value? h with
    | string s => exact absurd ⟨s, rfl⟩ hstring
    | object ms vs =>
      cases depth with
      | zero =>
        rw [Tree.value?] at h
        cases h
      | succ depth =>
        rw [told_eq, ← text_of_readCoded (hdistinct ms rfl) h]
        cases Failure.readCoded (depth + 1) (.object ms) <;> rfl
    | _ => exact (told_of_messageIn? rfl).symm

/-! ### Replies -/

def valueIn? (depth : Nat) (name : String) (members : List (Option String × Tree)) : Option Value :=
  (Tree.memberIn? name members).bind (Tree.value? depth)

/-- An object that is a reply: every name is a text, and the members that a reply has have values. Others need none. -/
structure Readable (depth : Nat) (members : List (Option String × Tree)) : Prop where
  named : Tree.Named members
  value : ∀ name ∈ ["result", "error", "id"], ∀ t, Tree.memberIn? name members = some t → (t.value? depth).isSome

theorem isSome_failure : (Failure.reader depth t).isSome = (t.value? depth).isSome := by
  cases h : t.value? depth with
  | none =>
    rw [Failure.reader, Reader.buffered, h]
    rfl
  | some e =>
    by_cases hstring : ∃ s, t = .string (some s)
    · obtain ⟨s, rfl⟩ := hstring
      rw [reader_string]
      rfl
    · rw [reader_of_value? h fun s hs => hstring ⟨s, hs⟩]
      rfl

theorem isSome_nullable {α : Type} {r : Reader α} (h : (r depth t).isSome = (t.value? depth).isSome) :
    (Reader.nullable r depth t).isSome = (t.value? depth).isSome := by
  by_cases ht : t = .null
  · subst ht
    rw [Tree.value?]
    rfl
  · rw [nullable_of_ne r depth ht, Option.isSome_map, h]

/-- What is read of a member that may be missing. -/
def partOf {α : Type} (depth : Nat) (r : Reader (Option α)) (name : String) (members : List (Option String × Tree)) :
    Option (Option α) :=
  (Tree.memberIn? name members).elim (some none) (r depth)

/-- A reply is read member by member. -/
theorem reader_object (hnamed : Tree.Named members) (hdistinct : Tree.Distinct members) :
    Reply.reader (depth + 1) (.object members) =
      (partOf depth (Reader.nullable Reader.value) "result" members).bind fun result =>
        (partOf depth (Reader.nullable Failure.reader) "error" members).bind fun failure =>
          (partOf depth (Reader.nullable Reader.value) "id" members).map fun id => ⟨result, failure, id⟩ := by
  obtain ⟨fs, hfs, hfound⟩ := Fields.exists_fields ["result", "error", "id"] depth hnamed hdistinct
  have hpart {α : Type} (r : Reader (Option α)) {name : String} (hname : name ∈ ["result", "error", "id"]) :
      fs.defaulted name r none = partOf depth r name members := hfound.defaulted_eq hname r none
  rw [Reply.reader, hfs]
  dsimp only
  rw [hpart _ (by simp), hpart _ (by simp), hpart _ (by simp)]
  cases partOf depth (Reader.nullable Reader.value) "result" members <;>
    cases partOf depth (Reader.nullable Failure.reader) "error" members <;>
      cases partOf depth (Reader.nullable Reader.value) "id" members <;> rfl

theorem isSome_partOf {α : Type} {r : Reader α} (hr : ∀ t, (r depth t).isSome = (t.value? depth).isSome) :
    (partOf depth (Reader.nullable r) name members).isSome ↔
      ∀ t, Tree.memberIn? name members = some t → (t.value? depth).isSome := by
  unfold partOf
  cases Tree.memberIn? name members with
  | none => simp
  | some t => simp [isSome_nullable (hr t)]

theorem isSome_reader (hdistinct : Tree.Distinct members) :
    (Reply.reader (depth + 1) (.object members)).isSome ↔ Readable depth members := by
  by_cases hnamed : Tree.Named members
  · have hread : Readable depth members ↔ (partOf depth (Reader.nullable Reader.value) "result" members).isSome ∧
        (partOf depth (Reader.nullable Failure.reader) "error" members).isSome ∧
        (partOf depth (Reader.nullable Reader.value) "id" members).isSome := by
      rw [isSome_partOf (r := Reader.value) fun _ => rfl, isSome_partOf fun _ => isSome_failure,
        isSome_partOf (r := Reader.value) fun _ => rfl]
      constructor
      · exact fun h => ⟨h.value _ (by simp), h.value _ (by simp), h.value _ (by simp)⟩
      · rintro ⟨hresult, herror, hid⟩
        refine ⟨hnamed, fun name hname => ?_⟩
        simp only [List.mem_cons, List.not_mem_nil, or_false] at hname
        rcases hname with rfl | rfl | rfl
        · exact hresult
        · exact herror
        · exact hid
    rw [reader_object hnamed hdistinct, hread]
    cases partOf depth (Reader.nullable Reader.value) "result" members <;>
      cases partOf depth (Reader.nullable Failure.reader) "error" members <;>
        cases partOf depth (Reader.nullable Reader.value) "id" members <;> simp
  · rw [Reply.reader, Fields.fields_eq_none _ _ hnamed]
    refine ⟨fun h => ?_, fun h => absurd h.named hnamed⟩
    cases h

/-- Null counts as none. -/
theorem getD_of_partOf {o : Option Value} (h : partOf depth (Reader.nullable Reader.value) name members = some o) :
    o.getD .null = (valueIn? depth name members).getD .null := by
  unfold partOf at h
  unfold valueIn?
  cases ht : Tree.memberIn? name members with
  | none =>
    rw [ht] at h
    cases h
    rfl
  | some t =>
    rw [ht] at h
    obtain ⟨v, hv⟩ : ∃ v, t.value? depth = some v := by
      rw [← Option.isSome_iff_exists, ← isSome_nullable rfl]
      exact Option.isSome_iff_exists.2 ⟨o, h⟩
    obtain ⟨o', ho', hvalue⟩ := nullable_value hv
    cases h.symm.trans ho'
    rw [Option.bind_some, hv, hvalue, Option.getD_some]

/-- An error that is not null is told. -/
theorem map_text_of_partOf {o : Option Failure}
    (hdistinct : ∀ ms, Tree.memberIn? name members = some (.object ms) → Tree.Distinct ms)
    (h : partOf depth (Reader.nullable Failure.reader) name members = some o) :
    o.map Failure.text = ((valueIn? depth name members).filter fun e => !e.isNull).map told := by
  unfold partOf at h
  unfold valueIn?
  cases ht : Tree.memberIn? name members with
  | none =>
    rw [ht] at h
    cases h
    rfl
  | some t =>
    rw [ht] at h
    by_cases hnull : t = .null
    · subst hnull
      cases h
      rw [Option.bind_some, Tree.value?]
      rfl
    · have hread : (Failure.reader depth t).map some = some o := by
        rw [← nullable_of_ne _ _ hnull]
        exact h
      obtain ⟨f, hf, rfl⟩ := Option.map_eq_some_iff.1 hread
      obtain ⟨e, he⟩ : ∃ e, t.value? depth = some e := by
        rw [← Option.isSome_iff_exists, ← isSome_failure, hf]
        rfl
      obtain ⟨f', hf', htold⟩ := text_of_reader he fun ms hms => hdistinct ms (ht.trans (congrArg some hms))
      cases hf.symm.trans hf'
      have hkeep : e.isNull = false := by
        cases kind_of_value? he with
        | null => exact absurd rfl hnull
        | _ => rfl
      rw [Option.bind_some, he, Option.filter_some, hkeep, Option.map_some, htold]
      rfl

/-- A reply tells of its error, or has a result. -/
theorem outcome_of_reader {r : Reply} (hdistinct : Tree.Distinct members)
    (herror : ∀ ms, Tree.memberIn? "error" members = some (.object ms) → Tree.Distinct ms)
    (h : Reply.reader (depth + 1) (.object members) = some r) :
    r.outcome = match (valueIn? depth "error" members).filter fun e => !e.isNull with
      | some e => .error (told e)
      | none => .ok ((valueIn? depth "result" members).getD .null) := by
  have hread : Readable depth members := by
    rw [← isSome_reader hdistinct, h]
    rfl
  rw [reader_object hread.named hdistinct] at h
  obtain ⟨result, hresult, h⟩ := Option.bind_eq_some_iff.1 h
  obtain ⟨failure, hfailure, h⟩ := Option.bind_eq_some_iff.1 h
  obtain ⟨id, -, rfl⟩ := Option.map_eq_some_iff.1 h
  have htold := map_text_of_partOf herror hfailure
  cases failure with
  | none =>
    rw [Option.map_none, eq_comm, Option.map_eq_none_iff] at htold
    rw [htold]
    exact congrArg Except.ok (getD_of_partOf hresult)
  | some f =>
    rw [Option.map_some, eq_comm, Option.map_eq_some_iff] at htold
    obtain ⟨e, he, htext⟩ := htold
    rw [he]
    exact congrArg Except.error htext.symm

theorem readable_of_value? (h : ((Tree.object members).value? (depth + 1)).isSome) : Readable depth members := by
  rw [Tree.value?, Option.isSome_map] at h
  obtain ⟨vs, hvs⟩ := Option.isSome_iff_exists.1 h
  obtain ⟨hnamed, hvalues⟩ := named_of_memberValues? hvs
  exact ⟨hnamed, fun name _ t ht => hvalues _ (Tree.mem_of_memberIn? ht)⟩

/-! ### Calls -/

variable {scope : Scope} {path method : String} {params : Value} {url : Url} {q : Http.Request} {σ : Type} {handle : Handler σ}
  {response : Http.Response} {s : σ}

/-- The result of a call is the one in the answer to its request. -/
theorem invoke_answered (hurl : scope.resolve path = .ok url) (hq : Fetch.getRequest url = .ok q)
    (hanswer : (handle (.fetch (posted (.of method params) q)) s).1 = .ok response) (hsuccess : response.isSuccess) :
    ((invoke scope path method params).run.run handle s).1 =
      match Reply.reader.ofBytes? response.body with
      | none => .error (.malformed "the body is no reply")
      | some reply => reply.outcome.mapError (.failure method) := by
  rw [run_invoke hurl hq, Action.run, run_reportOf_bind, hanswer, received_ok, resultOf_of_isSuccess hsuccess]
  rfl

section Objects

variable (hurl : scope.resolve path = .ok url) (hq : Fetch.getRequest url = .ok q)
  (hanswer : (handle (.fetch (posted (.of method params) q)) s).1 = .ok response) (hsuccess : response.isSuccess)
  (hbody : Tree.ofBytes? response.body = some (.object members)) (hdistinct : Tree.Distinct members)

include hurl hq hanswer hsuccess hbody hdistinct

theorem invoke_of_readable (herror : ∀ ms, Tree.memberIn? "error" members = some (.object ms) → Tree.Distinct ms)
    (hread : Readable 126 members) :
    ((invoke scope path method params).run.run handle s).1 =
      match (valueIn? 126 "error" members).filter fun e => !e.isNull with
      | some e => .error (.failure method (told e))
      | none => .ok ((valueIn? 126 "result" members).getD .null) := by
  have hsome : (Reply.reader Tree.maxDepth (.object members)).isSome := (isSome_reader hdistinct).2 hread
  obtain ⟨r, hr⟩ := Option.isSome_iff_exists.1 hsome
  have hresult := invoke_answered hurl hq hanswer hsuccess
  rw [Reader.ofBytes?, hbody, Option.bind_some, hr] at hresult
  refine hresult.trans ?_
  dsimp only
  rw [outcome_of_reader hdistinct herror hr]
  cases (valueIn? 126 "error" members).filter fun e => !e.isNull <;> rfl

theorem invoke_of_not_readable (hread : ¬ Readable 126 members) :
    ∃ detail, ((invoke scope path method params).run.run handle s).1 = .error (.malformed detail) := by
  have hnone : Reply.reader Tree.maxDepth (.object members) = none :=
    Option.not_isSome_iff_eq_none.1 (mt (isSome_reader hdistinct).1 hread)
  have hresult := invoke_answered hurl hq hanswer hsuccess
  rw [Reader.ofBytes?, hbody, Option.bind_some, hnone] at hresult
  exact ⟨_, hresult⟩

/-- A call that is answered with an object has an error other than null reported as a failure, and else its result. What is
told of the error is the message in it, unless there is none or it comes with a code that is no integer of 64 bits: then it
is the JSON text of the error. An object that is no reply is a failure as well. -/
theorem invoke_replied (herror : ∀ ms, Tree.memberIn? "error" members = some (.object ms) → Tree.Distinct ms) :
    let result := ((invoke scope path method params).run.run handle s).1
    (Readable 126 members →
      (∀ e, valueIn? 126 "error" members = some e → e.isNull = false →
        result = .error (.failure method (if hasPlainCode e then (messageIn? e).getD e.text else e.text)) ∧
          (result = .error (.failure method ((messageIn? e).getD e.text)) ↔ hasPlainCode e ∨ messageIn? e = none)) ∧
      ((∀ e, valueIn? 126 "error" members = some e → e.isNull) →
        result = .ok ((valueIn? 126 "result" members).getD .null))) ∧
    (¬ Readable 126 members → ∃ detail, result = .error (.malformed detail)) ∧
    (((Tree.object members).value? Tree.maxDepth).isSome → Readable 126 members) := by
  intro result
  refine ⟨fun hread => ?_, invoke_of_not_readable hurl hq hanswer hsuccess hbody hdistinct, readable_of_value?⟩
  have hresult : result = _ := invoke_of_readable hurl hq hanswer hsuccess hbody hdistinct herror hread
  refine ⟨fun e he hnull => ?_, fun hnull => ?_⟩
  · rw [he, Option.filter_some, hnull] at hresult
    have htold : result = .error (.failure method (told e)) := hresult
    refine ⟨htold, ?_⟩
    rw [htold, ← told_eq_iff]
    simp
  · have hnone : (valueIn? 126 "error" members).filter (fun e => !e.isNull) = none := by
      simpa [Option.filter_eq_none_iff] using hnull
    rw [hnone] at hresult
    exact hresult

end Objects

/-! ### Codes -/

def answering (body : Bytes) : Handler Unit
  | .fetch _, s => (.ok ⟨.ok, Keyed.empty, body⟩, s)
  | q, s => Template.serving (fun address => .error (.unreachable address)) q s

def coded (code : List Char) : Bytes :=
  Text.utf8 (record [("error", record [("message", quote "m"), ("code", code)])])

def codedMembers (code : Tree) : List (Option String × Tree) :=
  [(some "error", .object [(some "message", .string (some "m")), (some "code", code)])]

theorem ofBytes?_coded {code : List Char} (h : Writes code t) : Tree.ofBytes? (coded code) = some (.object (codedMembers t)) := by
  have herror : Writes (record [("message", quote "m"), ("code", code)])
      (.object [(some "message", .string (some "m")), (some "code", t)]) := writes_two (writes_quote "m") h
  have hall : ∀ x ∈ [(record [("message", quote "m"), ("code", code)])],
      Writes x (.object [(some "message", .string (some "m")), (some "code", t)]) := by simpa using herror
  exact (writes_record (fun _ => "error") hall).ofBytes?

theorem distinct_coded (code : Tree) : Tree.Distinct (codedMembers code) ∧
    ∀ ms, Tree.memberIn? "error" (codedMembers code) = some (.object ms) → Tree.Distinct ms := by
  refine ⟨by simp [Tree.Distinct, codedMembers], fun ms hms => ?_⟩
  cases hms
  simp [Tree.Distinct]

theorem value?_coded {v : Value} (h : t.value? 125 = some v) :
    valueIn? 126 "error" (codedMembers t) = some (.object [("code", v), ("message", .string "m")]) := by
  have hobject : (Tree.object [(some "message", .string (some "m")), (some "code", t)]).value? 126 =
      some (Value.ofMembers [("message", .string "m"), ("code", v)]) := by
    simp [Tree.value?, Tree.memberValues?, h]
  exact hobject

/-- The address of a path, and the request for what is there. -/
theorem resolve_api : ∃ url q, Template.rootCache.scope.resolve "api" = .ok url ∧ Fetch.getRequest url = .ok q :=
  ⟨⟨"https", some ⟨"", none, "e.c", none⟩, .segments ["api"], none, none⟩, ⟨.get, mirror.target, Keyed.empty, []⟩,
    by decide +kernel, by decide +kernel⟩

theorem readable_coded {v : Value} (h : t.value? 125 = some v) : Readable 126 (codedMembers t) := by
  refine readable_of_value? ?_
  simp [codedMembers, Tree.value?, Tree.memberValues?, h]

/-- A code that is null does not hide the message. -/
theorem invoke_replied_of_null :
    ((invoke Template.rootCache.scope "api" "f" .null).run.run (answering (coded (Value.write .null))) ()).1 =
      .error (.failure "f" "m") := by
  obtain ⟨url, q, hurl, hq⟩ := resolve_api
  have hvalue : Tree.null.value? 125 = some .null := by rw [Tree.value?]
  exact (((invoke_replied hurl hq rfl rfl (ofBytes?_coded writes_null) (distinct_coded _).1 (distinct_coded _).2).1
    (readable_coded hvalue)).1 _ (value?_coded hvalue) rfl).1

/-- A code that is a string does: the caller is told the JSON text of the error, and not the message in it. -/
theorem invoke_of_text_code :
    valueIn? 126 "error" (codedMembers (.string (some "1"))) = some (.object [("code", .string "1"), ("message", .string "m")]) ∧
    Tree.ofBytes? (coded (quote "1")) = some (.object (codedMembers (.string (some "1")))) ∧
    let result := ((invoke Template.rootCache.scope "api" "f" .null).run.run (answering (coded (quote "1"))) ()).1
    result = .error (.failure "f" "\x7b\"code\":\"1\",\"message\":\"m\"\x7d") ∧ result ≠ .error (.failure "f" "m") := by
  obtain ⟨url, q, hurl, hq⟩ := resolve_api
  have hvalue : (Tree.string (some "1")).value? 125 = some (.string "1") := by
    rw [Tree.value?]
    rfl
  have hbody := ofBytes?_coded (writes_quote "1")
  have htold : told (.object [("code", .string "1"), ("message", .string "m")]) =
      "\x7b\"code\":\"1\",\"message\":\"m\"\x7d" := by decide +kernel
  have hresult : ((invoke Template.rootCache.scope "api" "f" .null).run.run (answering (coded (quote "1"))) ()).1 = _ :=
    invoke_of_readable hurl hq rfl rfl hbody (distinct_coded _).1 (distinct_coded _).2 (readable_coded hvalue)
  rw [value?_coded hvalue] at hresult
  replace hresult := hresult.trans (congrArg (fun text => Except.error (Error.failure "f" text)) htold)
  refine ⟨value?_coded hvalue, hbody, hresult, fun h => ?_⟩
  have hmessage := hresult.symm.trans h
  rw [Except.error.injEq, Error.failure.injEq] at hmessage
  exact absurd hmessage.2 (by decide +kernel)

end EdgeWorker.Rpc
