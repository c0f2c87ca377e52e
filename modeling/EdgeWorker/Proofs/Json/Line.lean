import EdgeWorker.Proofs.Json.Value

/-!
Texts of values are lines.

* `OneLine` — a text without control characters, line breaks among them;
* `oneLine_quote` — strings are escaped so that their literals are lines;
* `Value.Exact.oneLine`, `oneLine_record` — so are the texts of values and records.
-/

namespace EdgeWorker.Json

open EdgeWorker.Decimal

variable {cs ds : List Char}

/-- The text has no control characters. -/
def OneLine (cs : List Char) : Prop := ∀ c ∈ cs, 0x20 ≤ c.toNat

theorem OneLine.append (h : OneLine cs) (h' : OneLine ds) : OneLine (cs ++ ds) := List.forall_mem_append.2 ⟨h, h'⟩

theorem OneLine.cons {c : Char} (hc : 0x20 ≤ c.toNat) (h : OneLine cs) : OneLine (c :: cs) := List.forall_mem_cons.2 ⟨hc, h⟩

theorem OneLine.nil : OneLine [] := nofun

-- character by character of the text, not over all characters
instance (cs : List Char) : Decidable (OneLine cs) := List.decidableBAll (fun c : Char => 0x20 ≤ c.toNat) cs

/-! ### Literals -/

/-- What is not escaped is no control character, and what is escaped is written with letters and digits. -/
theorem oneLine_escape (c : Char) : OneLine (escape c) := by
  have hdigit : ∀ d < 16, 0x20 ≤ (hexDigit d).toNat := by decide
  unfold escape
  split_ifs with _ _ _ _ _ _ _ hcontrol
  any_goals decide
  · have hhigh := hdigit (c.toNat / 16) (by omega)
    have hlow := hdigit (c.toNat % 16) (by omega)
    have hstart : OneLine ['\\', 'u', '0', '0'] := by decide
    exact hstart.append (.cons hhigh (.cons hlow .nil))
  · exact List.forall_mem_singleton.2 (Nat.not_lt.1 hcontrol)

theorem oneLine_quote (s : String) : OneLine (quote s) := by
  refine (OneLine.cons (by decide) fun c hc => ?_).append (by decide)
  obtain ⟨d, -, hd⟩ := List.mem_flatMap.1 hc
  exact oneLine_escape d c hd

theorem oneLine_digits (n : Nat) : OneLine (digits n) := by
  intro c hc
  have hdigit : c.isDigit := Nat.isDigit_of_mem_toDigits (b := 10) (n := n) (by decide) (by decide) hc
  exact Nat.le_trans (by decide) (Char.isDigit_iff_toNat.1 hdigit).1

theorem oneLine_writeInt (n : Int) : OneLine (writeInt n) := by
  unfold writeInt
  split
  · exact (oneLine_digits _).cons (by decide)
  · exact oneLine_digits _

/-! ### Containers -/

theorem oneLine_commas {pieces : List (List Char)} (h : ∀ piece ∈ pieces, OneLine piece) : OneLine (commas pieces) := by
  induction pieces with
  | nil => exact .nil
  | cons piece pieces ih =>
    obtain ⟨hpiece, hpieces⟩ := List.forall_mem_cons.1 h
    cases pieces with
    | nil => exact hpiece
    | cons piece' pieces => exact hpiece.append ((ih hpieces).cons (by decide))

theorem oneLine_brackets {items : List (List Char)} (h : ∀ item ∈ items, OneLine item) : OneLine (brackets items) :=
  ((oneLine_commas h).cons (by decide)).append (by decide)

theorem oneLine_record {members : List (String × List Char)} (h : ∀ m ∈ members, OneLine m.2) : OneLine (record members) := by
  refine OneLine.append (.cons (by decide) (oneLine_commas fun piece hpiece => ?_)) (by decide)
  obtain ⟨m, hm, rfl⟩ := List.mem_map.1 hpiece
  exact (oneLine_quote m.1).append ((h m hm).cons (by decide))

/-- The text of an exact value is a line. -/
theorem Value.Exact.oneLine {depth : Nat} {v : Value} (h : v.Exact depth) : OneLine v.write := by
  induction h with
  | null => decide
  | bool b => cases b <;> decide
  | int => exact oneLine_writeInt _
  | string s => exact oneLine_quote s
  | @array depth items _ ih =>
    rw [Value.write, writeItems_eq_map]
    refine oneLine_brackets fun item hitem => ?_
    obtain ⟨v, hv, rfl⟩ := List.mem_map.1 hitem
    exact ih v hv
  | @object depth members _ _ ih =>
    have hrecord : OneLine (record (members.map fun m => (m.1, m.2.write))) := oneLine_record fun piece hpiece => by
      obtain ⟨m, hm, rfl⟩ := List.mem_map.1 hpiece
      exact ih m hm
    rw [record, List.map_map] at hrecord
    rw [Value.write, writeMembers_eq_map]
    exact hrecord

end EdgeWorker.Json
