import EdgeWorker.Cache.Entry
import EdgeWorker.Proofs.Base64
import EdgeWorker.Proofs.Http.Header

/-!
What an entry keeps of a response.

* `bytes_ofResponse`, `toNat_status_ofResponse` — the body and the status of every response;
* `Entry.Keeps` — these, and the headers that are texts (`keeps_ofResponse`);
* `response_ofResponse_eq` — of the headers the values that are texts;
* `response_ofResponse` — so a response whose headers are all texts is kept as a whole.
-/

namespace EdgeWorker.Cache

open EdgeWorker.Http

namespace Entry

variable (r : Response) (now : Timestamp)

theorem bytes_ofResponse : (ofResponse r now).bytes = .ok r.body := by
  have hbody : Base64.decode? (ofResponse r now).body.toList = some r.body := by
    show Base64.decode? (String.ofList (Base64.encode r.body)).toList = _
    rw [String.toList_ofList, Base64.decode?_encode]
  rw [bytes, hbody]

theorem toNat_status_ofResponse : (ofResponse r now).status.toNat = r.status.code := by
  show (UInt16.ofNat r.status.code).toNat = _
  rw [UInt16.toNat_ofNat', Nat.mod_eq_of_lt (Nat.lt_of_le_of_lt r.status.greatest (by decide))]

/-- The texts of fields have the bytes of the values that they are of. -/
theorem map_textHeaders (hs : Headers) : (textHeaders hs).map (fun h => (h.1, Text.bytes h.2)) =
    (hs.fields.filter (·.2.IsText)).map fun f => (f.1.text, f.2.bytes) := by
  unfold textHeaders
  rw [List.map_filterMap, ← List.filterMap_eq_map, List.filterMap_filter]
  refine congrArg (List.filterMap · hs.fields) (funext fun f => ?_)
  cases htext : f.2.text? with
  | none =>
    have hnone : ¬ f.2.IsText := fun h => by simpa [htext] using f.2.isSome_text?.2 h
    simp [htext, hnone]
  | some text =>
    have hsome : f.2.IsText := f.2.isSome_text?.1 (by rw [htext]; rfl)
    simp [htext, hsome, HeaderValue.bytes_of_text? htext]

/-- The entry has the status and the body of a response, and those of its fields that are texts, in their order. -/
structure Keeps (entry : Entry) (response : Response) : Prop where
  status : entry.status.toNat = response.status.code
  body : entry.bytes = .ok response.body
  headers : entry.headers.map (fun h => (h.1, Text.bytes h.2)) =
    (response.headers.fields.filter (·.2.IsText)).map fun f => (f.1.text, f.2.bytes)

theorem keeps_ofResponse : (ofResponse r now).Keeps r where
  status := toNat_status_ofResponse r now
  body := bytes_ofResponse r now
  headers := map_textHeaders r.headers

/-- The texts of fields are added as the fields that they are of. -/
theorem foldlM_addHeader (fs : List (HeaderName × HeaderValue)) (hs : Headers) :
    (fs.filterMap fun field => field.2.text?.map fun text => (field.1.text, text)).foldlM addHeader hs =
      .ok ((fs.filter (·.2.IsText)).foldl (fun hs field => hs.append field.1 field.2) hs) := by
  induction fs generalizing hs with
  | nil => rfl
  | cons field fs ih =>
    obtain ⟨name, value⟩ := field
    cases htext : value.text? with
    | none =>
      have hnone : ¬ value.IsText := fun h => by simpa [htext] using value.isSome_text?.2 h
      rw [List.filterMap_cons_none (by dsimp only; rw [htext]; rfl), List.filter_cons_of_neg (by simpa using hnone)]
      exact ih hs
    | some text =>
      have hsome : value.IsText := value.isSome_text?.1 (by rw [htext]; rfl)
      have hadd : addHeader hs (name.text, text) = .ok (hs.append name value) := by
        simp only [addHeader, name.ofText?_text, HeaderValue.ofText?_of_text? htext]
      rw [List.filterMap_cons_some (by dsimp only; rw [htext]; rfl), List.filter_cons_of_pos (by simpa using hsome),
        List.foldlM_cons, hadd]
      exact ih _

/-- The status, the body, and the headers that are texts are kept. -/
theorem response_ofResponse_eq : (ofResponse r now).response = .ok { r with headers := r.headers.texts } := by
  have hstatus : Status.ofNat? (ofResponse r now).status.toNat = some r.status := by
    rw [toNat_status_ofResponse, Status.ofNat?, dif_pos ⟨r.status.least, r.status.greatest⟩]
  have hheaders : (ofResponse r now).headers.foldlM addHeader (Keyed.empty : Headers) = .ok r.headers.texts := by
    rw [← r.headers.texts.ofFields_fields, r.headers.fields_texts]
    exact foldlM_addHeader r.headers.fields _
  unfold response
  rw [bytes_ofResponse, hstatus]
  simp only [hheaders]
  rfl

/-- A response whose headers are all texts is kept as a whole. -/
theorem response_ofResponse {r : Response} (h : ∀ field ∈ r.headers.fields, field.2.text?.isSome) (now : Timestamp) :
    (ofResponse r now).response = .ok r := by
  have htexts : r.headers.texts = r.headers := by
    rw [← r.headers.texts.ofFields_fields, r.headers.fields_texts, List.filter_eq_self.2, r.headers.ofFields_fields]
    exact fun field hfield => decide_eq_true (field.2.isSome_text?.1 (h field hfield))
  rw [response_ofResponse_eq, htexts]

end Entry

/-- A response with a name that has a text and another value, and with a name that has no text. -/
def mixed : Response where
  status := .ok
  headers := .ofFields ([("a", [0xE9]), ("b", [0xE9]), ("a", [0x78])].filterMap fun (name, bytes) => field? name bytes)
  body := [0xFF]

end EdgeWorker.Cache
