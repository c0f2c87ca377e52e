import EdgeWorker.Log.Entry
import EdgeWorker.Proofs.Json.Line
import EdgeWorker.Proofs.Json.Object
import Mathlib.Data.List.Sort

/-!
Entries of a log and the lines that they are written as.

* `Entry.Named` — no field has a name that every line has for itself (`reserved`);
* `Entry.Exact` — besides, the values of the fields are kept exactly by their texts;
* `Entry.Says` — what an entry has to say, by name;
* `oneLine_json`, `ofText?_json`, `json_injective` — the text of such an entry is a line that is read as just what the
  entry says, so that different entries have different lines.
-/

namespace EdgeWorker.Log

open EdgeWorker.Json EdgeWorker.Text

namespace Level

theorem name_injective {l l' : Level} (h : l.name = l'.name) : l = l' := by
  cases l <;> cases l' <;> first | rfl | exact absurd h (by decide)

end Level

namespace Entry

variable {e e' : Entry} {k : String} {x : Value}

/-! ### Entries -/

/-- The names that a line has for itself. -/
def reserved : List String := ["level", "message", "request_id", "route", "elapsed_us"]

/-- The fields stand in the order of their names, each name once, and none of them has a name that is reserved. -/
structure Named (e : Entry) : Prop where
  sorted : e.fields.Pairwise fun a b => a.1 < b.1
  free : ∀ f ∈ e.fields, f.1 ∉ reserved

/-- Besides, the values of the fields are kept exactly by their texts, one object around them included, and the time is
a number of 64 bits. -/
structure Exact (e : Entry) : Prop extends Named e where
  fields : ∀ f ∈ e.fields, f.2.Exact 126
  elapsed : ∀ n ∈ e.elapsed, n < 2 ^ 64

/-- What an entry has to say: its level, its message, the name of the request, the route and the time if they are there, and
its fields. -/
def Says (e : Entry) (k : String) (x : Value) : Prop :=
  (k = "level" ∧ x = .string e.level.name) ∨ (k = "message" ∧ x = .string e.message) ∨
    (k = "request_id" ∧ x = .string e.requestId) ∨ (∃ r, e.route = some r ∧ k = "route" ∧ x = .string r) ∨
      (k, x) ∈ e.fields ∨ ∃ n, e.elapsed = some n ∧ k = "elapsed_us" ∧ x = .nat n

/-! ### Members -/

def members (e : Entry) : List (String × Value) :=
  [("level", .string e.level.name), ("message", .string e.message), ("request_id", .string e.requestId)] ++
    (e.route.toList.map fun r => ("route", .string r)) ++ e.fields ++ (e.elapsed.toList.map fun n => ("elapsed_us", .nat n))

theorem mem_members : (k, x) ∈ e.members ↔ e.Says k x := by
  simp [members, Says, eq_comm (b := k), eq_comm (b := x)]

theorem json_eq (e : Entry) : e.json = String.ofList (record (e.members.map fun m => (m.1, m.2.write))) := by
  simp [json, members, Function.comp_def, Value.write, Value.nat]

theorem Named.nodup (h : e.Named) : (e.members.map Prod.fst).Nodup := by
  have hfields : (e.fields.map Prod.fst).Nodup := nodup_of_pairwise h.sorted
  have hfree : ∀ k ∈ reserved, k ∉ e.fields.map Prod.fst := fun k hk hmem => by
    obtain ⟨f, hf, rfl⟩ := List.mem_map.1 hmem
    exact h.free f hf hk
  have hnames : e.members.map Prod.fst = ["level", "message", "request_id"] ++ (e.route.toList.map fun _ => "route") ++
      e.fields.map Prod.fst ++ (e.elapsed.toList.map fun _ => "elapsed_us") := by
    simp [members, Function.comp_def]
  rw [hnames]
  simp only [reserved, List.forall_mem_cons] at hfree
  cases e.route <;> cases e.elapsed <;> simp_all [List.nodup_append]
  all_goals
    rintro k x hf rfl
    exact hfree.2.2.2.2 x hf

theorem Exact.value_members (h : e.Exact) : ∀ m ∈ e.members, m.2.Exact 126 := by
  rintro ⟨k, x⟩ hm
  rcases mem_members.1 hm with ⟨-, rfl⟩ | ⟨-, rfl⟩ | ⟨-, rfl⟩ | ⟨r, -, -, rfl⟩ | hf | ⟨n, hn, -, rfl⟩
  · exact .string _
  · exact .string _
  · exact .string _
  · exact .string _
  · exact h.fields _ hf
  · have hlt := h.elapsed n hn
    exact .int (by unfold leastInt; omega) (by unfold greatestInt; omega)

/-! ### Lines -/

/-- The text of an entry is a line. -/
theorem Exact.oneLine_json (h : e.Exact) : OneLine e.json.toList := by
  rw [json_eq, String.toList_ofList]
  refine oneLine_record fun piece hpiece => ?_
  obtain ⟨m, hm, rfl⟩ := List.mem_map.1 hpiece
  exact (h.value_members m hm).oneLine

/-- The text of an entry is read as what the entry says. -/
theorem Exact.ofText?_json (h : e.Exact) : ∃ v, Value.ofText? e.json = some v ∧ v.Holds e.Says := by
  refine ⟨Value.ofMembers e.members, ?_, (holds_ofMembers_of_nodup h.nodup).congr fun k x => mem_members⟩
  rw [json_eq, Value.ofText?, bytes, String.toList_ofList]
  exact Value.ofBytes?_record h.value_members

/-! ### Entries that say the same -/

section Names

variable (h : e.Named)
include h

theorem Named.not_mem (hk : k ∈ reserved) : (k, x) ∉ e.fields := fun hf => h.free _ hf hk

theorem Named.says_level : e.Says "level" x ↔ x = .string e.level.name := by
  simp [Says, h.not_mem (k := "level") (by decide)]

theorem Named.says_message : e.Says "message" x ↔ x = .string e.message := by
  simp [Says, h.not_mem (k := "message") (by decide)]

theorem Named.says_requestId : e.Says "request_id" x ↔ x = .string e.requestId := by
  simp [Says, h.not_mem (k := "request_id") (by decide)]

theorem Named.says_route : e.Says "route" x ↔ ∃ r, e.route = some r ∧ x = .string r := by
  simp [Says, h.not_mem (k := "route") (by decide)]

theorem Named.says_elapsed : e.Says "elapsed_us" x ↔ ∃ n, e.elapsed = some n ∧ x = .nat n := by
  simp [Says, h.not_mem (k := "elapsed_us") (by decide)]

theorem Named.says_field : (k, x) ∈ e.fields ↔ k ∉ reserved ∧ e.Says k x := by
  constructor
  · exact fun hf => ⟨h.free _ hf, .inr (.inr (.inr (.inr (.inl hf))))⟩
  · rintro ⟨hk, ⟨rfl, -⟩ | ⟨rfl, -⟩ | ⟨rfl, -⟩ | ⟨r, -, rfl, -⟩ | hf | ⟨n, -, rfl, -⟩⟩
    · exact absurd (by decide) hk
    · exact absurd (by decide) hk
    · exact absurd (by decide) hk
    · exact absurd (by decide) hk
    · exact hf
    · exact absurd (by decide) hk

end Names

/-- Entries that say the same are the same. -/
theorem Named.eq_of_says (h : e.Named) (h' : e'.Named) (hs : ∀ k x, e.Says k x ↔ e'.Says k x) : e = e' := by
  have hlevel : e.level = e'.level :=
    Level.name_injective (Value.string.inj (h'.says_level.1 ((hs _ _).1 (h.says_level.2 rfl))))
  have hmessage : e.message = e'.message := Value.string.inj (h'.says_message.1 ((hs _ _).1 (h.says_message.2 rfl)))
  have hrequest : e.requestId = e'.requestId := Value.string.inj (h'.says_requestId.1 ((hs _ _).1 (h.says_requestId.2 rfl)))
  have hroute : e.route = e'.route := Option.ext fun r => by
    simpa [h.says_route, h'.says_route] using hs "route" (.string r)
  have helapsed : e.elapsed = e'.elapsed := Option.ext fun n => by
    simpa [h.says_elapsed, h'.says_elapsed, Value.nat, Int.natCast_inj] using hs "elapsed_us" (.nat n)
  have hfields : e.fields = e'.fields := by
    have hasymm : Std.Antisymm fun a b : String × Value => a.1 < b.1 := ⟨fun a b hab hba => absurd hba (lt_asymm hab)⟩
    have hirrefl : Std.Irrefl fun a b : String × Value => a.1 < b.1 := ⟨fun a => lt_irrefl a.1⟩
    refine h.sorted.eq_of_mem_iff h'.sorted fun ⟨k, x⟩ => ?_
    rw [h.says_field, h'.says_field, hs]
  cases e
  cases e'
  simp_all

/-- Different entries have different texts. -/
theorem Exact.json_injective (h : e.Exact) (h' : e'.Exact) (he : e.json = e'.json) : e = e' := by
  obtain ⟨v, hv, hholds⟩ := h.ofText?_json
  obtain ⟨v', hv', hholds'⟩ := h'.ofText?_json
  rw [he, hv'] at hv
  cases hv
  exact h.eq_of_says h'.toNamed fun k x => hholds.member?_eq_some.symm.trans hholds'.member?_eq_some

end Entry
end EdgeWorker.Log
