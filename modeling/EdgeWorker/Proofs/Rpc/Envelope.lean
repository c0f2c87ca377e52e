import EdgeWorker.Proofs.Json.Member
import EdgeWorker.Rpc.Dispatch

/-!
Calls and replies are read back from their texts.

* `callOf?_call` — the method and the parameters of a call, and its identifier (`member?_id_call`);
* `ofBytes?_success`, `ofBytes?_failed` — a reply with a result, null included, and one with a message.

Both bodies hold at most `Tree.maxDepth` containers within each other: parameters stand within two of them, a result
stands within one.
-/

namespace EdgeWorker.Rpc

open EdgeWorker.Json EdgeWorker.Text

variable {method : String} {params v id : Value}

/-! ### Calls -/

def Call.members (method : String) (params : Value) : List (String × Value) :=
  [("method", .string method), ("params", .array [params]), ("id", .int 1), ("jsonrpc", .string Call.currentVersion)]

/-- The identifier of calls. -/
theorem exact_one {depth : Nat} : (Value.int 1).Exact depth := .int (by decide) (by decide)

theorem Call.ofBytes?_text (h : params.Exact 125) :
    Value.ofBytes? (Text.bytes (Call.of method params).text) = some (Value.ofMembers (Call.members method params)) := by
  have hparams : (Value.array [params]).Exact 126 := by
    refine .array fun v hv => ?_
    rw [List.mem_singleton.1 hv]
    exact h
  have hmembers : ∀ m ∈ Call.members method params, m.2.Exact 126 := by
    intro m hm
    simp only [Call.members, List.mem_cons, List.not_mem_nil, or_false] at hm
    rcases hm with rfl | rfl | rfl | rfl
    · exact .string method
    · exact hparams
    · exact exact_one
    · exact .string Call.currentVersion
  have hbytes : Text.bytes (Call.of method params).text =
      utf8 (record ((Call.members method params).map fun m => (m.1, m.2.write))) := by
    rw [Text.bytes, Call.text, String.toList_ofList]
    rfl
  rw [hbytes, Value.ofBytes?_record hmembers]

theorem member?_method_call : (Value.ofMembers (Call.members method params)).member? "method" = some (.string method) := by
  rw [member?_ofMembers]
  rfl

theorem member?_params_call : (Value.ofMembers (Call.members method params)).member? "params" = some (.array [params]) := by
  rw [member?_ofMembers]
  rfl

theorem member?_id_call : (Value.ofMembers (Call.members method params)).member? "id" = some (.int 1) := by
  rw [member?_ofMembers]
  rfl

theorem callOf?_call : callOf? (Value.ofMembers (Call.members method params)) = some (method, .array [params]) := by
  rw [callOf?, member?_method_call, member?_params_call]
  rfl

/-! ### Replies -/

/-- A value that may be null is read, and null counts as none. -/
theorem nullable_value {t : Tree} {depth : Nat} (h : t.value? depth = some v) :
    ∃ o : Option Value, Reader.nullable Reader.value depth t = some o ∧ o.getD .null = v := by
  by_cases ht : t = .null
  · subst ht
    rw [Tree.value?] at h
    cases h
    exact ⟨none, rfl, rfl⟩
  · refine ⟨some v, ?_, rfl⟩
    rw [nullable_of_ne _ _ ht, Reader.value, h]
    rfl

theorem writes_two {k l : String} {cs ds : List Char} {t t' : Tree} (h : Writes cs t) (h' : Writes ds t') :
    Writes (record [(k, cs), (l, ds)]) (.object [(some k, t), (some l, t')]) := by
  have hall : ∀ m ∈ [(k, cs, t), (l, ds, t')], Writes m.2.1 m.2.2 := by simp [h, h']
  have hrecord := writes_record Prod.fst hall
  simpa only [List.map_cons, List.map_nil] using hrecord

/-- A reply with a result is read as one with this result. -/
theorem ofBytes?_success (h : v.Exact 126) (hid : id.Exact 126) : ∃ r,
    Reply.reader.ofBytes? (Text.bytes ((Reply.success v).withId (some id)).text) = some r ∧ r.outcome = .ok v := by
  obtain ⟨t, hwrites, hvalue⟩ := writes_value h
  obtain ⟨t', hwrites', hvalue'⟩ := writes_value hid
  obtain ⟨result, hresult, hv⟩ := nullable_value hvalue
  obtain ⟨echo, hecho, -⟩ := nullable_value hvalue'
  have hbytes : Text.bytes ((Reply.success v).withId (some id)).text = utf8 (record [("result", v.write), ("id", id.write)]) := by
    rw [Text.bytes, Reply.text, String.toList_ofList]
    rfl
  refine ⟨⟨result, none, echo⟩, ?_, congrArg Except.ok hv⟩
  rw [hbytes]
  refine (writes_two hwrites hwrites').read ?_
  simp [Reply.reader, Tree.maxDepth, Fields.of?, Fields.take?, Fields.defaulted, List.lookup_cons, hresult, hecho]

def messageTree (message : String) : Tree := .object [(some "message", .string (some message))]

theorem writes_message (message : String) :
    Writes (record [("message", quote message)]) (.object [(some "message", .string (some message))]) := by
  have hall : ∀ s ∈ [message], Writes (quote s) (.string (some s)) := fun s _ => writes_quote s
  have hrecord := writes_record (fun _ => "message") hall
  simpa only [List.map_cons, List.map_nil] using hrecord

theorem read_message (message : String) :
    Reader.nullable Failure.reader 126 (messageTree message) = some (some (.of message)) := by
  have hvalue : (messageTree message).value? 126 = some (Value.ofMembers [("message", .string message)]) := by
    simp [messageTree, Tree.value?, Tree.memberValues?]
  have hcoded : Failure.readCoded 126 (messageTree message) = some (.of message) := by
    simp [Failure.readCoded, messageTree, Fields.of?, Fields.take?, Fields.required, Fields.defaulted, List.lookup_cons,
      Reader.string, Failure.of]
  have hreader : Reader.nullable Failure.reader 126 (messageTree message) = (Failure.reader 126 (messageTree message)).map some :=
    rfl
  rw [hreader, Failure.reader, Reader.buffered, hvalue]
  unfold messageTree at hcoded ⊢
  simp only [hcoded, Option.isSome_some, if_true, Option.map_some]

/-- A reply with a message is read as one with this message. -/
theorem ofBytes?_failed (message : String) (hid : id.Exact 126) : ∃ r,
    Reply.reader.ofBytes? (Text.bytes ((Reply.failed message).withId (some id)).text) = some r ∧ r.outcome = .error message := by
  obtain ⟨t', hwrites', hvalue'⟩ := writes_value hid
  obtain ⟨echo, hecho, -⟩ := nullable_value hvalue'
  have hbytes : Text.bytes ((Reply.failed message).withId (some id)).text =
      utf8 (record [("error", (Failure.of message).json), ("id", id.write)]) := by
    rw [Text.bytes, Reply.text, String.toList_ofList]
    rfl
  refine ⟨⟨none, some (.of message), echo⟩, ?_, rfl⟩
  rw [hbytes]
  have hmessage : Writes (Failure.of message).json (messageTree message) := writes_message message
  refine (writes_two hmessage hwrites').read ?_
  simp [Reply.reader, Tree.maxDepth, Fields.of?, Fields.take?, Fields.defaulted, List.lookup_cons, read_message, hecho]

end EdgeWorker.Rpc
