import EdgeWorker.Text.Utf8

/-!
A text is read back from its UTF-8.

* `lead_utf8` — bytes that begin with those of a character begin with that character;
* `ofBytes?_utf8` — so the bytes of a text stand for that text;
* `utf8EncodeChar_ascii`, `le_of_mem_utf8EncodeChar` — an ASCII character is one byte below `0x80`, and no byte of any
  other one is, so that its byte is in no other one (`eq_of_mem_utf8EncodeChar`);
* `slice?_eq_some_iff` — a slice of a text begins and ends between characters.
-/

namespace EdgeWorker.Text

theorem toNat_ofNat_of_lt {n : Nat} (h : n < 256) : (UInt8.ofNat n).toNat = n := by
  rw [UInt8.toNat_ofNat']
  exact Nat.mod_eq_of_lt h

@[simp] theorem utf8_nil : utf8 [] = [] := rfl

@[simp] theorem utf8_append (cs ds : List Char) : utf8 (cs ++ ds) = utf8 cs ++ utf8 ds := List.flatMap_append

/-! ### The bytes of a character -/

theorem utf8EncodeChar_ascii {c : Char} (h : c.toNat < 128) : String.utf8EncodeChar c = [UInt8.ofNat c.toNat] := by
  have h' : c.val.toNat ≤ 127 := Nat.le_of_lt_succ h
  simp only [String.utf8EncodeChar, if_pos h']
  rfl

theorem le_of_mem_utf8EncodeChar {c : Char} (h : 128 ≤ c.toNat) {b : UInt8} (hb : b ∈ String.utf8EncodeChar c) :
    128 ≤ b.toNat := by
  have h' : ¬ c.val.toNat ≤ 127 := Nat.not_le.2 h
  simp only [String.utf8EncodeChar, if_neg h'] at hb
  split at hb
  · simp only [List.mem_cons, List.not_mem_nil, or_false] at hb
    rcases hb with rfl | rfl <;> rw [toNat_ofNat_of_lt (by omega)] <;> omega
  split at hb
  · simp only [List.mem_cons, List.not_mem_nil, or_false] at hb
    rcases hb with rfl | rfl | rfl <;> rw [toNat_ofNat_of_lt (by omega)] <;> omega
  · simp only [List.mem_cons, List.not_mem_nil, or_false] at hb
    rcases hb with rfl | rfl | rfl | rfl <;> rw [toNat_ofNat_of_lt (by omega)] <;> omega

/-- The byte of an ASCII character is in that character only. -/
theorem eq_of_mem_utf8EncodeChar {a c : Char} (ha : a.toNat < 128) (h : UInt8.ofNat a.toNat ∈ String.utf8EncodeChar c) :
    c = a := by
  have hbyte : (UInt8.ofNat a.toNat).toNat = a.toNat := toNat_ofNat_of_lt (by omega)
  by_cases hc : c.toNat < 128
  · rw [utf8EncodeChar_ascii hc, List.mem_singleton] at h
    have htoNat := congrArg UInt8.toNat h
    rw [hbyte, toNat_ofNat_of_lt (by omega)] at htoNat
    rw [← Char.ofNat_toNat c, ← htoNat, Char.ofNat_toNat]
  · have hle := le_of_mem_utf8EncodeChar (Nat.not_lt.1 hc) h
    omega

/-! ### What bytes begin with -/

theorem follow_of_two : ∀ n < 32, 2 ≤ n → follow (UInt8.ofNat (n + 192)) = some (1, 0x80, 0xBF) := by decide

theorem follow_of_three : ∀ n < 16, follow (UInt8.ofNat (n + 224)) =
    some (2, if n = 0 then 0xA0 else 0x80, if n = 13 then 0x9F else 0xBF) := by decide

theorem follow_of_four : ∀ n < 5, follow (UInt8.ofNat (n + 240)) =
    some (3, if n = 0 then 0x90 else 0x80, if n = 4 then 0x8F else 0xBF) := by decide

theorem isTail_ofNat : ∀ n < 64, isTail (UInt8.ofNat (n + 128)) = true := by decide

theorem not_small {n : Nat} (h : 128 ≤ n) (hn : n < 256) : ¬ UInt8.ofNat n < 0x80 := by
  rw [UInt8.lt_iff_toNat_lt, toNat_ofNat_of_lt hn]
  exact Nat.not_lt.2 h

theorem within_range {a low high : UInt8} (hl : low.toNat ≤ a.toNat) (hh : a.toNat ≤ high.toNat) :
    (decide (a < low) || decide (high < a)) = false := by
  simp only [Bool.or_eq_false_iff, decide_eq_false_iff_not, UInt8.lt_iff_toNat_lt]
  omega

theorem lead_one {n : Nat} (hn : n < 128) (rest : Bytes) : lead (UInt8.ofNat n) rest = .char (Char.ofNat n) 1 := by
  have hsmall : UInt8.ofNat n < 0x80 := by
    rw [UInt8.lt_iff_toNat_lt, toNat_ofNat_of_lt (by omega)]
    exact hn
  rw [lead, if_pos hsmall, toNat_ofNat_of_lt (by omega)]

theorem lead_two {n m : Nat} (hn : n < 32) (h2 : 2 ≤ n) (hm : m < 64) (rest : Bytes) :
    lead (UInt8.ofNat (n + 192)) (UInt8.ofNat (m + 128) :: rest) = .char (Char.ofNat (n * 64 + m)) 2 := by
  have hb : (UInt8.ofNat (m + 128)).toNat = m + 128 := toNat_ofNat_of_lt (by omega)
  have hr : (decide (UInt8.ofNat (m + 128) < 0x80) || decide (0xBF < UInt8.ofNat (m + 128))) = false :=
    within_range (by rw [hb]; show 128 ≤ _; omega) (by rw [hb]; show _ ≤ 191; omega)
  simp only [lead, if_neg (not_small (n := n + 192) (by omega) (by omega)), follow_of_two n hn h2, hr,
    Bool.false_eq_true, if_false, beq_self_eq_true, if_true, join]
  rw [hb, toNat_ofNat_of_lt (by omega), show (n + 192) % 32 = n by omega, show (m + 128) % 64 = m by omega]

theorem lead_three {n m k : Nat} (hn : n < 16) (hm : m < 64) (hk : k < 64) (hlow : n = 0 → 32 ≤ m)
    (hhigh : n = 13 → m < 32) (rest : Bytes) :
    lead (UInt8.ofNat (n + 224)) (UInt8.ofNat (m + 128) :: UInt8.ofNat (k + 128) :: rest) =
      .char (Char.ofNat ((n * 64 + m) * 64 + k)) 3 := by
  have hb : (UInt8.ofNat (m + 128)).toNat = m + 128 := toNat_ofNat_of_lt (by omega)
  have hc : (UInt8.ofNat (k + 128)).toNat = k + 128 := toNat_ofNat_of_lt (by omega)
  have hr : (decide (UInt8.ofNat (m + 128) < if n = 0 then 0xA0 else 0x80) ||
      decide ((if n = 13 then 0x9F else 0xBF) < UInt8.ofNat (m + 128))) = false := by
    refine within_range ?_ ?_
    · rw [hb]
      split
      · show 160 ≤ _; omega
      · show 128 ≤ _; omega
    · rw [hb]
      split
      · show _ ≤ 159; omega
      · show _ ≤ 191; omega
  simp only [lead, if_neg (not_small (n := n + 224) (by omega) (by omega)), follow_of_three n hn, hr,
    isTail_ofNat k hk, Bool.false_eq_true, if_false, beq_self_eq_true, if_true, join, Bool.not_true]
  rw [if_neg (by decide), hb, hc, toNat_ofNat_of_lt (by omega), show (n + 224) % 16 = n by omega,
    show (m + 128) % 64 = m by omega, show (k + 128) % 64 = k by omega]

theorem lead_four {n m k l : Nat} (hn : n < 5) (hm : m < 64) (hk : k < 64) (hl : l < 64) (hlow : n = 0 → 16 ≤ m)
    (hhigh : n = 4 → m < 16) (rest : Bytes) :
    lead (UInt8.ofNat (n + 240)) (UInt8.ofNat (m + 128) :: UInt8.ofNat (k + 128) :: UInt8.ofNat (l + 128) :: rest) =
      .char (Char.ofNat (((n * 64 + m) * 64 + k) * 64 + l)) 4 := by
  have hb : (UInt8.ofNat (m + 128)).toNat = m + 128 := toNat_ofNat_of_lt (by omega)
  have hc : (UInt8.ofNat (k + 128)).toNat = k + 128 := toNat_ofNat_of_lt (by omega)
  have hd : (UInt8.ofNat (l + 128)).toNat = l + 128 := toNat_ofNat_of_lt (by omega)
  have hr : (decide (UInt8.ofNat (m + 128) < if n = 0 then 0x90 else 0x80) ||
      decide ((if n = 4 then 0x8F else 0xBF) < UInt8.ofNat (m + 128))) = false := by
    refine within_range ?_ ?_
    · rw [hb]
      split
      · show 144 ≤ _; omega
      · show 128 ≤ _; omega
    · rw [hb]
      split
      · show _ ≤ 143; omega
      · show _ ≤ 191; omega
  simp only [lead, if_neg (not_small (n := n + 240) (by omega) (by omega)), follow_of_four n hn, hr,
    isTail_ofNat k hk, isTail_ofNat l hl, Bool.false_eq_true, if_false, join, Bool.not_true]
  rw [if_neg (by decide), if_neg (by decide), hb, hc, hd, toNat_ofNat_of_lt (by omega),
    show (n + 240) % 8 = n by omega, show (m + 128) % 64 = m by omega, show (k + 128) % 64 = k by omega,
    show (l + 128) % 64 = l by omega]

/-- Bytes that begin with those of a character begin with that character. -/
theorem lead_utf8 (c : Char) (rest : Bytes) :
    ∃ a tail, String.utf8EncodeChar c = a :: tail ∧ lead a (tail ++ rest) = .char c (tail.length + 1) := by
  have hc : Char.ofNat c.val.toNat = c := Char.ofNat_toNat c
  have hv : c.val.toNat < 0xD800 ∨ 0xDFFF < c.val.toNat ∧ c.val.toNat < 0x110000 := c.valid
  generalize hn : c.val.toNat = v at hc hv
  simp only [String.utf8EncodeChar, hn]
  split
  · exact ⟨_, _, rfl, by rw [lead_one (by omega), hc]; rfl⟩
  split
  · refine ⟨_, _, rfl, ?_⟩
    have h := lead_two (n := v / 64 % 32) (m := v % 64) (by omega) (by omega) (by omega) rest
    rw [show v / 64 % 32 * 64 + v % 64 = v by omega, hc] at h
    exact h
  split
  · refine ⟨_, _, rfl, ?_⟩
    have h := lead_three (n := v / 4096 % 16) (m := v / 64 % 64) (k := v % 64) (by omega) (by omega) (by omega)
      (by omega) (by omega) rest
    rw [show (v / 4096 % 16 * 64 + v / 64 % 64) * 64 + v % 64 = v by omega, hc] at h
    exact h
  · refine ⟨_, _, rfl, ?_⟩
    have h := lead_four (n := v / 262144 % 8) (m := v / 4096 % 64) (k := v / 64 % 64) (l := v % 64) (by omega)
      (by omega) (by omega) (by omega) (by omega) (by omega) rest
    rw [show ((v / 262144 % 8 * 64 + v / 4096 % 64) * 64 + v / 64 % 64) * 64 + v % 64 = v by omega, hc] at h
    exact h

/-! ### Reading a text back -/

theorem decodeFrom_utf8 (cs : List Char) (index : Nat) : decodeFrom index (utf8 cs) = .ok cs := by
  induction cs generalizing index with
  | nil => simp [utf8, decodeFrom]
  | cons c cs ih =>
    obtain ⟨a, tail, ha, hl⟩ := lead_utf8 c (utf8 cs)
    rw [show utf8 (c :: cs) = a :: (tail ++ utf8 cs) by simp [utf8, ha], decodeFrom, hl]
    simp only [Nat.add_sub_cancel, List.drop_left, ih]

/-- The bytes of a text stand for that text. -/
theorem ofBytes?_utf8 (cs : List Char) : ofBytes? (utf8 cs) = some (String.ofList cs) := by
  simp only [ofBytes?, ofBytes, decode, decodeFrom_utf8]
  rfl

/-! ### Cutting at bytes -/

variable {cs front middle back : List Char} {n start stop : Nat}

theorem length_utf8_cons (c : Char) (cs : List Char) : (utf8 (c :: cs)).length = c.utf8Size + (utf8 cs).length := by
  simp [utf8]

/-- A text is cut behind the bytes of its front. -/
theorem cutByte?_append (front back : List Char) : cutByte? (utf8 front).length (front ++ back) = some (front, back) := by
  induction front with
  | nil => rw [utf8_nil, List.length_nil, List.nil_append, cutByte?]
  | cons c front ih =>
    have hpos : 0 < c.utf8Size := c.utf8Size_pos
    have hlength := length_utf8_cons c front
    obtain ⟨m, hm⟩ : ∃ m, (utf8 (c :: front)).length = m + 1 := Nat.exists_eq_add_one.2 (by omega)
    have hrest : m + 1 - c.utf8Size = (utf8 front).length := by omega
    rw [hm, List.cons_append, cutByte?, if_pos (by omega), hrest, ih, Option.map_some]

/-- A text is cut between characters only. -/
theorem cutByte?_eq_some_iff : cutByte? n cs = some (front, back) ↔ cs = front ++ back ∧ (utf8 front).length = n := by
  refine ⟨fun h => ?_, fun ⟨hcs, hn⟩ => hcs ▸ hn ▸ cutByte?_append front back⟩
  induction n, cs using cutByte?.induct generalizing front with
  | case1 cs =>
    rw [cutByte?, Option.some.injEq, Prod.mk.injEq] at h
    obtain ⟨rfl, rfl⟩ := h
    exact ⟨rfl, rfl⟩
  | case2 n => cases h
  | case3 n c cs hc ih =>
    rw [cutByte?, if_pos hc] at h
    obtain ⟨⟨front', back'⟩, hcut, hpair⟩ := Option.map_eq_some_iff.1 h
    obtain ⟨rfl, rfl⟩ := Prod.mk.inj hpair
    obtain ⟨rfl, hlength⟩ := ih hcut
    exact ⟨rfl, by rw [length_utf8_cons, hlength]; omega⟩
  | case4 n c cs hc => rw [cutByte?, if_neg hc] at h; cases h

theorem slice?_append (front middle back : List Char) :
    slice? (utf8 front).length (utf8 (front ++ middle)).length (front ++ (middle ++ back)) = some middle := by
  rw [utf8_append, List.length_append, slice?, if_pos (Nat.le_add_right _ _), Nat.add_sub_cancel_left]
  simp only [cutByte?_append, Option.bind_eq_bind, Option.bind_some]

/-- What is sliced out of a text begins and ends between characters. -/
theorem slice?_eq_some_iff : slice? start stop cs = some middle ↔
    ∃ front back, cs = front ++ (middle ++ back) ∧ (utf8 front).length = start ∧ (utf8 (front ++ middle)).length = stop := by
  constructor
  · intro h
    by_cases hle : start ≤ stop
    · simp only [slice?, if_pos hle, Option.bind_eq_bind, Option.bind_eq_some_iff, Option.some.injEq] at h
      obtain ⟨⟨front, rest⟩, hfront, ⟨middle, back⟩, hmiddle, rfl⟩ := h
      obtain ⟨rfl, rfl⟩ := cutByte?_eq_some_iff.1 hfront
      obtain ⟨rfl, hlength⟩ := cutByte?_eq_some_iff.1 hmiddle
      exact ⟨front, back, rfl, rfl, by rw [utf8_append, List.length_append, hlength]; omega⟩
    · simp [slice?, hle] at h
  · rintro ⟨front, back, rfl, rfl, rfl⟩
    exact slice?_append front middle back

end EdgeWorker.Text
