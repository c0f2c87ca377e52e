import EdgeWorker.Cache.Persistent
import EdgeWorker.Proofs.Json.Written

/-!
What a store of single values keeps of a cache is read back from its text: lists of strings (`ofBytes?_listText`) and
entries (`ofBytes?_json`).
-/

namespace EdgeWorker.Cache

open EdgeWorker.Json EdgeWorker.Text

theorem mapM_map_of_forall {α β γ : Type} {f : α → β} {r : β → Option γ} {g : α → γ} (as : List α)
    (h : ∀ a ∈ as, r (f a) = some (g a)) : (as.map f).mapM r = some (as.map g) := by
  induction as with
  | nil => rfl
  | cons a as ih =>
    have hrest := ih fun a ha => h a (List.mem_cons_of_mem _ ha)
    simp [h a List.mem_cons_self, hrest]

/-- A list of strings is read back from its text. -/
theorem ofBytes?_listText (strings : List String) :
    (Reader.list Reader.string).ofBytes? (Persistent.listText strings) = some strings := by
  refine (writes_brackets fun s _ => writes_quote s).read ?_
  have h := mapM_map_of_forall (f := fun s => Tree.string (some s)) (r := Reader.string 126) (g := id) strings
    fun _ _ => rfl
  rw [List.map_id] at h
  exact h

namespace Entry

def headerTree (header : String × String) : Tree := .array [.string (some header.1), .string (some header.2)]

theorem writes_header (header : String × String) :
    Writes (brackets [quote header.1, quote header.2]) (headerTree header) :=
  show Writes (brackets ([header.1, header.2].map quote))
      (.array ([header.1, header.2].map fun s => .string (some s))) from
    writes_brackets fun s _ => writes_quote s

theorem ofText?_text (t : Timestamp) : Timestamp.ofText? t.text = some t := by
  rw [Timestamp.ofText?, dif_pos t.valid]

def members (e : Entry) (status : Numeral) : List (String × List Char × Tree) :=
  [("status", writeInt e.status.toNat, .number status),
   ("headers", brackets (e.headers.map fun header => brackets [quote header.1, quote header.2]),
     .array (e.headers.map headerTree)),
   ("body", quote e.body, .string (some e.body)),
   ("stored_at", quote e.storedAt.text, .string (some e.storedAt.text))]

theorem reader_members (e : Entry) {status : Numeral} (hs : status.value? = some (.int e.status.toNat)) :
    reader Tree.maxDepth (.object ((e.members status).map fun m => (some m.1, m.2.2))) = some e := by
  have hlt : e.status.toNat ≤ 0xFFFF := Nat.le_of_lt_succ e.status.toNat_lt
  have hint : Reader.int 0 0xFFFF 126 (.number status) = some (e.status.toNat : Int) := by
    simp only [Reader.int, hs]
    rw [if_pos (by simp; omega)]
  have hheaders : Reader.list (Reader.pair Reader.string Reader.string) 126 (.array (e.headers.map headerTree)) =
      some e.headers := by
    have h := mapM_map_of_forall (r := Reader.pair Reader.string Reader.string 125) (f := headerTree) (g := id)
      e.headers fun _ _ => rfl
    rw [List.map_id] at h
    exact h
  simp [reader, members, Tree.maxDepth, Fields.of?, Fields.take?, Fields.required, List.lookup_cons, hint, hheaders,
    Reader.string, timestamp, ofText?_text]

/-- An entry is read back from its text. -/
theorem ofBytes?_json (e : Entry) : reader.ofBytes? (utf8 e.json) = some e := by
  obtain ⟨status, hvalue, hstatus⟩ := writes_digits e.status.toNat
  have hs : status.value? = some (.int e.status.toNat) := hvalue (Nat.lt_trans e.status.toNat_lt (by decide))
  have hwrites : ∀ m ∈ e.members status, Writes m.2.1 m.2.2 := by
    intro m hm
    simp only [members, List.mem_cons, List.not_mem_nil, or_false] at hm
    rcases hm with rfl | rfl | rfl | rfl
    · exact hstatus
    · exact writes_brackets fun header _ => writes_header header
    · exact writes_quote e.body
    · exact writes_quote e.storedAt.text
  exact (writes_record Prod.fst hwrites).read (e.reader_members hs)

end Entry
end EdgeWorker.Cache
