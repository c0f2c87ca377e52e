import EdgeWorker.Proofs.Json.Object
import EdgeWorker.Proofs.Json.Written
import Mathlib.Tactic.Choose

/-!
Values are read back from their text.

* `Value.Exact n v` — no number of `v` is lost when it is written, the members of its objects stand in the order of their
  names, and there are at most `n` containers within each other;
* `writes_value` — the text of such a value is read as a tree whose value it is, and so is the text of a record of such
  values (`Value.ofBytes?_record`).
-/

namespace EdgeWorker.Json

open EdgeWorker.Text EdgeWorker.Decimal

/-! ### Words -/

theorem tokensFrom_letters {bs : Bytes} (h : ∀ b ∈ bs, isLetter b = true) (read rest : Bytes) :
    tokensFrom (.word read) (bs ++ rest) = tokensFrom (.word (bs.reverse ++ read)) rest := by
  induction bs generalizing read with
  | nil => rfl
  | cons b bs ih =>
    have hb : step (.word read) b = some ([], .word (b :: read)) := by simp [step, h b List.mem_cons_self]
    rw [List.cons_append, tokensFrom_silent hb, ih fun b hb => h b (List.mem_cons_of_mem _ hb)]
    simp

theorem tokensFrom_word {read rest : Bytes} {token : Token} (hr : Apart rest) (h : word? read = some token) :
    tokensFrom (.word read) rest = (tokensFrom .gap rest).map (token :: ·) := by
  cases rest with
  | nil => simp [tokensFrom, finish, h]
  | cons b rest =>
    have hb := (hr b rfl).2
    rw [tokensFrom_cons, tokensFrom_cons]
    simp only [step, hb, Bool.false_eq_true, if_false, h]
    cases start b with
    | none => rfl
    | some found => simp [Function.comp_def]

/-- A word is one token. -/
theorem writes_word {cs : List Char} (b : UInt8) (bs : Bytes) (token : Token) {t : Tree} (hbytes : utf8 cs = b :: bs)
    (hstart : start b = some ([], .word [b])) (hletters : ∀ x ∈ bs, isLetter x = true)
    (hword : word? (bs.reverse ++ [b]) = some token)
    (ht : ∀ frames, Tree.placeToken frames token = some (Tree.place t frames)) : Writes cs t := by
  intro frames
  refine ⟨[token], fun rest hr => ?_, ?_⟩
  · have hstep : step .gap b = some ([], .word [b]) := hstart
    rw [hbytes, List.cons_append, tokensFrom_silent hstep, tokensFrom_letters hletters, tokensFrom_word hr hword]
    rfl
  · have hstep : Tree.step ⟨frames, .value, none⟩ token = Tree.placeToken frames token := rfl
    rw [List.foldlM_cons, hstep, ht frames]
    rfl

theorem writes_null : Writes (Value.write .null) .null :=
  writes_word 0x6E [0x75, 0x6C, 0x6C] .null (by decide +kernel) rfl (by decide +kernel) rfl fun _ => rfl

theorem writes_bool (b : Bool) : Writes (Value.write (.bool b)) (.bool b) := by
  cases b with
  | true => exact writes_word 0x74 [0x72, 0x75, 0x65] (.bool true) (by decide +kernel) rfl (by decide +kernel) rfl fun _ => rfl
  | false =>
    exact writes_word 0x66 [0x61, 0x6C, 0x73, 0x65] (.bool false) (by decide +kernel) rfl (by decide +kernel) rfl fun _ => rfl

/-! ### Integers -/

/-- The number with a minus before these digits. -/
def Numeral.ofNegative (ds : List Nat) : Numeral := ⟨true, ds, [], none⟩

theorem AreDigits.ofBytes?_minus {ds : List Nat} {n : Nat} (h : AreDigits ds n) :
    Numeral.ofBytes? (0x2D :: ds.map digitByte) = some (Numeral.ofNegative ds) := by
  have htake := takeDigits_map h.lt
  rcases h.leading with rfl | ⟨d, more, rfl, hd⟩
  · rfl
  · rw [Numeral.ofBytes?]
    simp only [htake]
    split
    · rename_i he
      cases he
    · rename_i he
      cases he
      exact absurd rfl hd
    · rename_i he
      cases he
    · rename_i he
      cases he
      rfl

theorem AreDigits.value?_minus {ds : List Nat} {n : Nat} (h : AreDigits ds n) (hpos : 0 < n) (hn : n ≤ 1 <<< 63) :
    (Numeral.ofNegative ds).value? = some (.int (-n)) := by
  have hlt : n < 1 <<< 64 := Nat.lt_of_le_of_lt hn (by decide)
  have htake : takeIn 0 ds = (n, []) := by rw [takeIn_eq (by rw [h.value]; exact hlt), h.value]
  have hne : n ≠ 0 := Nat.pos_iff_ne_zero.1 hpos
  have hle : n ≤ 9223372036854775808 := hn
  simp [Numeral.value?, Numeral.scaled, Numeral.ofNegative, htake, takeIn, hne, hle]

/-- An integer of 64 bits is read back from its text. -/
theorem writes_int {n : Int} (hleast : leastInt ≤ n) (hgreatest : n ≤ greatestInt) :
    ∃ number : Numeral, number.value? = some (.int n) ∧ Writes (writeInt n) (.number number) := by
  unfold leastInt at hleast
  unfold greatestInt at hgreatest
  unfold writeInt
  split
  · next hneg =>
    obtain ⟨ds, hds, hbytes⟩ := exists_digits n.natAbs
    refine ⟨.ofNegative ds, ?_, fun frames => ⟨[.number (.ofNegative ds)], fun rest hr => ?_, ?_⟩⟩
    · rw [hds.value?_minus (by omega) (by omega)]
      congr 2
      omega
    · have hminus : utf8 ('-' :: digits n.natAbs) = 0x2D :: ds.map digitByte := by
        rw [← hbytes, ← List.singleton_append, utf8_append]
        rfl
      have hnumeric : ∀ b ∈ ds.map digitByte, isNumeric b = true := by
        intro b hb
        obtain ⟨d, hd, rfl⟩ := List.mem_map.1 hb
        exact isNumeric_digitByte (hds.lt d hd)
      have hread : number? ((ds.map digitByte).reverse ++ [0x2D]) = some (.number (.ofNegative ds)) := by
        rw [number?, List.reverse_append, List.reverse_reverse, List.reverse_singleton, List.singleton_append,
          hds.ofBytes?_minus, Option.map_some]
      have hstep : step .gap 0x2D = some ([], .number [0x2D]) := rfl
      rw [hminus, List.cons_append, tokensFrom_silent hstep, tokensFrom_numeric hnumeric, tokensFrom_number hr hread]
      rfl
    · rfl
  · next hpos =>
    obtain ⟨number, hvalue, hwrites⟩ := writes_digits n.natAbs
    refine ⟨number, ?_, hwrites⟩
    rw [hvalue (by omega)]
    congr 2
    omega

/-! ### Values -/

/-- A value that is kept exactly by its text: its numbers are integers of 64 bits, with a sign or without, the members of
its objects stand in the order of their names, as `Value.ofMembers` puts them, and at most so many containers stand within
each other. -/
inductive Value.Exact : Nat → Value → Prop
  | null {depth : Nat} : Exact depth .null
  | bool {depth : Nat} (b : Bool) : Exact depth (.bool b)
  | int {depth : Nat} {n : Int} : leastInt ≤ n → n ≤ greatestInt → Exact depth (.int n)
  | string {depth : Nat} (s : String) : Exact depth (.string s)
  | array {depth : Nat} {items : List Value} : (∀ v ∈ items, Exact depth v) → Exact (depth + 1) (.array items)
  | object {depth : Nat} {members : List (String × Value)} : (members.Pairwise fun a b => a.1 < b.1) →
      (∀ m ∈ members, Exact depth m.2) → Exact (depth + 1) (.object members)

theorem writeItems_eq_map (items : List Value) : writeItems items = items.map Value.write := by
  induction items with
  | nil => rfl
  | cons v rest ih => rw [writeItems, ih, List.map_cons]

theorem writeMembers_eq_map (members : List (String × Value)) :
    writeMembers members = members.map fun m => writeMember m.1 m.2.write := by
  induction members with
  | nil => rfl
  | cons m rest ih => rw [writeMembers, ih, List.map_cons]

theorem values?_map {depth : Nat} {g : Value → Tree} {items : List Value}
    (h : ∀ v ∈ items, (g v).value? depth = some v) : Tree.values? depth (items.map g) = some items := by
  induction items with
  | nil => rfl
  | cons v rest ih =>
    rw [List.map_cons, Tree.values?, h v List.mem_cons_self, ih fun x hx => h x (List.mem_cons_of_mem _ hx)]

theorem memberValues?_map {depth : Nat} {g : String × Value → Tree} {members : List (String × Value)}
    (h : ∀ m ∈ members, (g m).value? depth = some m.2) :
    Tree.memberValues? depth (members.map fun m => (some m.1, g m)) = some members := by
  induction members with
  | nil => rfl
  | cons m rest ih =>
    have hrest := ih fun x hx => h x (List.mem_cons_of_mem _ hx)
    simp only [List.map_cons, Tree.memberValues?, h m List.mem_cons_self, hrest]

/-- A record of values is read as the object that its members make up. -/
theorem writes_members {depth : Nat} {members : List (String × Value)}
    (h : ∀ m ∈ members, ∃ t : Tree, Writes m.2.write t ∧ t.value? depth = some m.2) :
    ∃ t : Tree, Writes (record (members.map fun m => (m.1, m.2.write))) t ∧
      t.value? (depth + 1) = some (Value.ofMembers members) := by
  choose! g hwrites hvalue using h
  refine ⟨.object (members.map fun m => (some m.1, g m)), writes_record Prod.fst hwrites, ?_⟩
  rw [Tree.value?, memberValues?_map hvalue, Option.map_some]

/-- The text of an exact value is read as a tree whose value it is. -/
theorem writes_value {depth : Nat} {v : Value} (h : v.Exact depth) : ∃ t : Tree, Writes v.write t ∧ t.value? depth = some v := by
  induction h with
  | null => exact ⟨.null, writes_null, by rw [Tree.value?]⟩
  | bool b => exact ⟨.bool b, writes_bool b, by rw [Tree.value?]⟩
  | int hleast hgreatest =>
    obtain ⟨number, hvalue, hwrites⟩ := writes_int hleast hgreatest
    exact ⟨.number number, hwrites, by rw [Tree.value?, hvalue]⟩
  | string s => exact ⟨.string (some s), writes_quote s, by rw [Tree.value?]; rfl⟩
  | @array depth items _ ih =>
    choose! g hwrites hvalue using ih
    refine ⟨.array (items.map g), ?_, by rw [Tree.value?, values?_map hvalue]; rfl⟩
    rw [Value.write, writeItems_eq_map]
    exact writes_brackets hwrites
  | @object depth members hsorted _ ih =>
    obtain ⟨t, hwrites, hvalue⟩ := writes_members ih
    rw [ofMembers_of_pairwise hsorted] at hvalue
    refine ⟨t, ?_, hvalue⟩
    rw [record, List.map_map] at hwrites
    rw [Value.write, writeMembers_eq_map]
    exact hwrites

/-- The members of a record are read back from its text, in any order. -/
theorem Value.ofBytes?_record {members : List (String × Value)} (h : ∀ m ∈ members, m.2.Exact 126) :
    Value.ofBytes? (utf8 (record (members.map fun m => (m.1, m.2.write)))) = some (Value.ofMembers members) := by
  obtain ⟨t, hwrites, hvalue⟩ := writes_members fun m hm => writes_value (h m hm)
  rw [Value.ofBytes?, hwrites.ofBytes?, Option.bind_some]
  exact hvalue

end EdgeWorker.Json
