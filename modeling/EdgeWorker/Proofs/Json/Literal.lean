import EdgeWorker.Json.Printer
import EdgeWorker.Json.Tree
import EdgeWorker.Proofs.Text.Utf8

/-!
Literals are read back as what they were written for.

* `exists_pieces` — the escaped form of a character is read as pieces that stand for it;
* `tokensFrom_quote` — a quoted string is one token, which stands for that string, whatever follows it;
* `tokensFrom_digits`, `AreDigits.value?` — the digits of a natural are read as a number, and its value is that natural.
-/

namespace EdgeWorker.Json

open EdgeWorker.Text EdgeWorker.Decimal

/-! ### Bytes that give no token -/

theorem tokensFrom_cons (mode : Mode) (b : UInt8) (rest : Bytes) :
    tokensFrom mode (b :: rest) = match step mode b with
      | none => none
      | some (tokens, mode) => (tokensFrom mode rest).map (tokens ++ ·) := rfl

theorem tokensFrom_silent {mode m : Mode} {b : UInt8} (h : step mode b = some ([], m)) (rest : Bytes) :
    tokensFrom mode (b :: rest) = tokensFrom m rest := by
  rw [tokensFrom_cons, h]
  simp

/-! ### Strings -/

/-- A byte that stands for itself within a string. -/
def IsBare (b : UInt8) : Prop := b ≠ 0x22 ∧ b ≠ 0x5C ∧ ¬ b < 0x20

theorem step_bare {b : UInt8} (h : IsBare b) (ps : List Piece) :
    step (.string ps) b = some ([], .string (.byte b :: ps)) := by
  obtain ⟨hq, hs, hc⟩ := h
  simp [step, hq, hs, hc]

theorem tokensFrom_bytes {bs : Bytes} (h : ∀ b ∈ bs, IsBare b) (ps : List Piece) (rest : Bytes) :
    tokensFrom (.string ps) (bs ++ rest) = tokensFrom (.string ((bs.map Piece.byte).reverse ++ ps)) rest := by
  induction bs generalizing ps with
  | nil => rfl
  | cons b bs ih =>
    rw [List.cons_append, tokensFrom_silent (step_bare (h b List.mem_cons_self) ps),
      ih fun b hb => h b (List.mem_cons_of_mem _ hb)]
    simp

theorem pieceBytes?_bytes (bs : Bytes) (more : List Piece) :
    pieceBytes? (bs.map Piece.byte ++ more) = (pieceBytes? more).map (bs ++ ·) := by
  induction bs with
  | nil => simp
  | cons b bs ih =>
    simp only [List.map_cons, List.cons_append, pieceBytes?, ih, Option.map_map]
    rfl

theorem isBare_of_mem_utf8 {c : Char} (hq : c ≠ '"') (hs : c ≠ '\\') (hc : ¬ c.toNat < 0x20) {b : UInt8}
    (hb : b ∈ utf8 [c]) : IsBare b := by
  simp only [utf8, List.flatMap_cons, List.flatMap_nil, List.append_nil] at hb
  unfold IsBare
  simp only [ne_eq, ← UInt8.toNat_inj, UInt8.lt_iff_toNat_lt]
  show b.toNat ≠ 34 ∧ b.toNat ≠ 92 ∧ ¬ b.toNat < 32
  by_cases h : c.toNat < 128
  · have hq' : c.toNat ≠ 34 := fun he => hq (Char.toNat_inj.1 he)
    have hs' : c.toNat ≠ 92 := fun he => hs (Char.toNat_inj.1 he)
    rw [utf8EncodeChar_ascii h, List.mem_singleton] at hb
    rw [hb, toNat_ofNat_of_lt (by omega)]
    exact ⟨hq', hs', hc⟩
  · have := le_of_mem_utf8EncodeChar (Nat.not_lt.1 h) hb
    omega

theorem hexDigit_spec : ∀ n < 16, utf8 [hexDigit n] = [UInt8.ofNat (hexDigit n).toNat] ∧
    hexValue? (UInt8.ofNat (hexDigit n).toNat) = some n := by decide

theorem tokensFrom_unit {b : UInt8} {d : Nat} (h : hexValue? b = some d) (missing value : Nat) (ps : List Piece)
    (rest : Bytes) : tokensFrom (.unit (missing + 1) value ps) (b :: rest) =
      tokensFrom (.unit missing (value * 16 + d) ps) rest := by
  rw [tokensFrom_silent]
  simp [step, h]

/-- A control without an escape of its own is read from its number. -/
theorem tokensFrom_control {n : Nat} (hn : n < 256) (ps : List Piece) (rest : Bytes) :
    tokensFrom (.string ps) (utf8 ['\\', 'u', '0', '0', hexDigit (n / 16), hexDigit (n % 16)] ++ rest) =
      tokensFrom (.string (.unit n :: ps)) rest := by
  obtain ⟨hu, hv⟩ := hexDigit_spec (n / 16) (by omega)
  obtain ⟨hu', hv'⟩ := hexDigit_spec (n % 16) (by omega)
  have hbytes : utf8 ['\\', 'u', '0', '0', hexDigit (n / 16), hexDigit (n % 16)] =
      [0x5C, 0x75, 0x30, 0x30] ++ utf8 [hexDigit (n / 16)] ++ utf8 [hexDigit (n % 16)] := by
    simp only [utf8, List.flatMap_cons, List.flatMap_nil, List.append_nil]
    rfl
  have hzero : hexValue? 0x30 = some 0 := rfl
  rw [hbytes, hu, hu']
  simp only [List.cons_append, List.nil_append]
  rw [tokensFrom_silent (m := .escape ps) rfl, tokensFrom_silent (m := .unit 3 0 ps) rfl,
    tokensFrom_unit hzero, tokensFrom_unit hzero, tokensFrom_unit hv, tokensFrom_silent]
  simp only [step, hv', Option.map_some]
  rw [show ((0 * 16 + 0) * 16 + 0) * 16 + n / 16 = n / 16 by omega, show n / 16 * 16 + n % 16 = n by omega]

/-- A byte that is written for one of the controls with an escape of their own is read as that control. -/
theorem tokensFrom_escape {b e : UInt8} (h : escaped? e = some b) (hu : e ≠ 0x75) (ps : List Piece) (rest : Bytes) :
    tokensFrom (.string ps) (0x5C :: e :: rest) = tokensFrom (.string (.byte b :: ps)) rest := by
  rw [tokensFrom_silent (m := .escape ps) rfl, tokensFrom_silent]
  simp [step, h, hu]

/-- A character, escaped if need be, is read as pieces that stand for it. -/
theorem exists_pieces (c : Char) : ∃ qs : List Piece,
    (∀ ps rest, tokensFrom (.string ps) (utf8 (escape c) ++ rest) = tokensFrom (.string (qs.reverse ++ ps)) rest) ∧
      ∀ more, pieceBytes? (qs ++ more) = (pieceBytes? more).map (utf8 [c] ++ ·) := by
  unfold escape
  split
  · subst c
    exact ⟨[.byte 0x22], tokensFrom_escape rfl (by decide), pieceBytes?_bytes [0x22]⟩
  split
  · subst c
    exact ⟨[.byte 0x5C], tokensFrom_escape rfl (by decide), pieceBytes?_bytes [0x5C]⟩
  split
  · subst c
    exact ⟨[.byte 0x08], tokensFrom_escape rfl (by decide), pieceBytes?_bytes [0x08]⟩
  split
  · subst c
    exact ⟨[.byte 0x09], tokensFrom_escape rfl (by decide), pieceBytes?_bytes [0x09]⟩
  split
  · subst c
    exact ⟨[.byte 0x0A], tokensFrom_escape rfl (by decide), pieceBytes?_bytes [0x0A]⟩
  split
  · subst c
    exact ⟨[.byte 0x0C], tokensFrom_escape rfl (by decide), pieceBytes?_bytes [0x0C]⟩
  split
  · subst c
    exact ⟨[.byte 0x0D], tokensFrom_escape rfl (by decide), pieceBytes?_bytes [0x0D]⟩
  split
  · rename_i hc
    refine ⟨[.unit c.toNat], fun ps rest => ?_, fun more => ?_⟩
    · exact tokensFrom_control (by omega) ps rest
    · have hlow : isLowUnit c.toNat = false := by simp [isLowUnit]; omega
      have hhigh : isHighUnit c.toNat = false := by simp [isHighUnit]; omega
      rw [List.cons_append, List.nil_append, pieceBytes?.eq_def]
      simp only [hlow, hhigh, Bool.false_eq_true, if_false, Char.ofNat_toNat]
  · rename_i hq hs _ _ _ _ _ hc
    refine ⟨(utf8 [c]).map .byte, fun ps rest => ?_, pieceBytes?_bytes (utf8 [c])⟩
    exact tokensFrom_bytes (fun b => isBare_of_mem_utf8 hq hs hc) ps rest

/-- An escaped text is read as pieces that stand for it. -/
theorem exists_pieces_list (cs : List Char) : ∃ qs : List Piece,
    (∀ ps rest, tokensFrom (.string ps) (utf8 (cs.flatMap escape) ++ rest) =
      tokensFrom (.string (qs.reverse ++ ps)) rest) ∧ pieceBytes? qs = some (utf8 cs) := by
  induction cs with
  | nil => exact ⟨[], fun _ _ => rfl, rfl⟩
  | cons c cs ih =>
    obtain ⟨qs, hq, hp⟩ := ih
    obtain ⟨qc, hc, hpc⟩ := exists_pieces c
    refine ⟨qc ++ qs, fun ps rest => ?_, ?_⟩
    · rw [List.flatMap_cons, utf8_append, List.append_assoc, hc, hq]
      simp
    · rw [hpc, hp, Option.map_some, ← utf8_append]
      rfl

/-- A quoted string is one token, which stands for that string. -/
theorem tokensFrom_quote (s : String) : ∃ qs : List Piece, text? qs = some s ∧
    ∀ rest, tokensFrom .gap (utf8 (quote s) ++ rest) = (tokensFrom .gap rest).map (.string qs :: ·) := by
  obtain ⟨qs, hq, hp⟩ := exists_pieces_list s.toList
  refine ⟨qs, ?_, fun rest => ?_⟩
  · rw [text?, hp, Option.bind_some, ofBytes?_utf8, String.ofList_toList]
  · have hbytes : utf8 (quote s) ++ rest = 0x22 :: (utf8 (s.toList.flatMap escape) ++ 0x22 :: rest) := by
      rw [quote, utf8_append, List.append_assoc]
      rfl
    rw [hbytes, tokensFrom_silent (m := .string []) rfl, hq, List.append_nil, tokensFrom_cons]
    simp [step]

/-! ### Naturals -/

def digitByte (d : Nat) : UInt8 := UInt8.ofNat (d + 48)

theorem digitByte_spec : ∀ d < 10, utf8 [Nat.digitChar d] = [digitByte d] ∧ digit? (digitByte d) = some d ∧
    isSpace (digitByte d) = false ∧ mark? (digitByte d) = none ∧ digitByte d ≠ 0x22 ∧ digitByte d ≠ 0x2D ∧
      isLetter (digitByte d) = false := by decide

theorem isNumeric_digitByte {d : Nat} (h : d < 10) : isNumeric (digitByte d) = true := by
  simp [isNumeric, (digitByte_spec d h).2.1]

/-- Digits in base ten: the number that they stand for, and no zero before others. -/
structure AreDigits (ds : List Nat) (n : Nat) : Prop where
  lt : ∀ d ∈ ds, d < 10
  value : ds.foldl (fun n d => n * 10 + d) 0 = n
  leading : ds = [0] ∨ ∃ d more, ds = d :: more ∧ d ≠ 0

theorem exists_digits (n : Nat) : ∃ ds, AreDigits ds n ∧ utf8 (digits n) = ds.map digitByte := by
  induction n using Nat.strongRecOn with
  | _ n ih =>
    rw [digits, Nat.toDigits_eq_if (by decide)]
    split
    · rename_i hn
      refine ⟨[n], ⟨by simpa using hn, by simp, ?_⟩, (digitByte_spec n hn).1⟩
      rcases Nat.eq_zero_or_pos n with rfl | hpos
      · exact .inl rfl
      · exact .inr ⟨n, [], rfl, by omega⟩
    · rename_i hn
      obtain ⟨ds, hds, hb⟩ := ih (n / 10) (by omega)
      have hlast : n % 10 < 10 := Nat.mod_lt n (by decide)
      refine ⟨ds ++ [n % 10], ⟨fun d hd => ?_, ?_, ?_⟩, ?_⟩
      · rcases List.mem_append.1 hd with hd | hd
        · exact hds.lt d hd
        · rw [List.mem_singleton.1 hd]
          exact hlast
      · rw [List.foldl_append, hds.value]
        simp only [List.foldl_cons, List.foldl_nil]
        omega
      · rcases hds.leading with rfl | ⟨d, more, rfl, hd⟩
        · have := hds.value
          simp only [List.foldl_cons, List.foldl_nil] at this
          omega
        · exact .inr ⟨d, more ++ [n % 10], rfl, hd⟩
      · rw [utf8_append, (digitByte_spec _ hlast).1, List.map_append]
        exact congrArg (· ++ [digitByte (n % 10)]) hb

theorem takeDigits_map {ds : List Nat} (h : ∀ d ∈ ds, d < 10) : takeDigits (ds.map digitByte) = (ds, []) := by
  induction ds with
  | nil => rfl
  | cons d ds ih =>
    have hd := (digitByte_spec d (h d List.mem_cons_self)).2.1
    simp only [List.map_cons, takeDigits, hd, ih fun d hd => h d (List.mem_cons_of_mem _ hd)]

/-- The number that digits without sign, point and exponent are the text of. -/
def Numeral.ofDigits (ds : List Nat) : Numeral := ⟨false, ds, [], none⟩

theorem AreDigits.ofBytes? {ds : List Nat} {n : Nat} (h : AreDigits ds n) :
    Numeral.ofBytes? (ds.map digitByte) = some (Numeral.ofDigits ds) := by
  have htake := takeDigits_map h.lt
  rcases h.leading with rfl | ⟨d, more, rfl, hd⟩
  · rfl
  · have hminus := (digitByte_spec d (h.lt d List.mem_cons_self)).2.2.2.2.2.1
    rw [Numeral.ofBytes?]
    · simp only [htake]
      split
      · rename_i he
        cases he
      · rename_i he
        cases he
        exact absurd rfl hd
      · rename_i he
        cases he
      · rename_i he
        cases he
        rfl
    · intro rest he
      exact hminus (List.cons.inj he).1

theorem le_foldl_digits (ds : List Nat) (s : Nat) : s ≤ ds.foldl (fun n d => n * 10 + d) s := by
  induction ds generalizing s with
  | nil => exact Nat.le_refl s
  | cons d ds ih => exact Nat.le_trans (by omega) (ih (s * 10 + d))

theorem takeIn_eq {ds : List Nat} {s : Nat} (h : ds.foldl (fun n d => n * 10 + d) s < 1 <<< 64) :
    takeIn s ds = (ds.foldl (fun n d => n * 10 + d) s, []) := by
  induction ds generalizing s with
  | nil => rfl
  | cons d ds ih =>
    have hle := le_foldl_digits ds (s * 10 + d)
    rw [List.foldl_cons] at h ⊢
    rw [takeIn, if_pos (Nat.lt_of_le_of_lt hle h), ih h]

theorem AreDigits.value? {ds : List Nat} {n : Nat} (h : AreDigits ds n) (hn : n < 1 <<< 64) :
    (Numeral.ofDigits ds).value? = some (.int n) := by
  have htake : takeIn 0 ds = (n, []) := by rw [takeIn_eq (by rw [h.value]; exact hn), h.value]
  simp [Numeral.value?, Numeral.scaled, Numeral.ofDigits, htake, takeIn]

/-- Bytes after which a number or a word ends. -/
def Apart (rest : Bytes) : Prop := ∀ b ∈ rest.head?, isNumeric b = false ∧ isLetter b = false

theorem tokensFrom_numeric {bs : Bytes} (h : ∀ b ∈ bs, isNumeric b = true) (read rest : Bytes) :
    tokensFrom (.number read) (bs ++ rest) = tokensFrom (.number (bs.reverse ++ read)) rest := by
  induction bs generalizing read with
  | nil => rfl
  | cons b bs ih =>
    rw [List.cons_append, tokensFrom_silent (m := .number (b :: read)),
      ih fun b hb => h b (List.mem_cons_of_mem _ hb)]
    · simp
    · simp [step, h b List.mem_cons_self]

theorem tokensFrom_number {read rest : Bytes} {token : Token} (hr : Apart rest) (h : number? read = some token) :
    tokensFrom (.number read) rest = (tokensFrom .gap rest).map (token :: ·) := by
  cases rest with
  | nil => simp [tokensFrom, finish, h]
  | cons b rest =>
    have hb := (hr b rfl).1
    rw [tokensFrom_cons, tokensFrom_cons]
    simp only [step, hb, Bool.false_eq_true, if_false, h]
    cases start b with
    | none => rfl
    | some found => simp [Function.comp_def]

/-- The digits of a natural are one token, a number whose value is that natural if it fits. -/
theorem tokensFrom_digits (n : Nat) : ∃ ds, AreDigits ds n ∧ ∀ rest, Apart rest →
    tokensFrom .gap (utf8 (digits n) ++ rest) = (tokensFrom .gap rest).map (.number (.ofDigits ds) :: ·) := by
  obtain ⟨ds, hds, hb⟩ := exists_digits n
  refine ⟨ds, hds, fun rest hr => ?_⟩
  have hread : number? (ds.map digitByte).reverse = some (.number (.ofDigits ds)) := by
    rw [number?, List.reverse_reverse, hds.ofBytes?, Option.map_some]
  obtain ⟨d, more, rfl⟩ : ∃ d more, ds = d :: more := by
    rcases hds.leading with rfl | ⟨d, more, rfl, -⟩ <;> exact ⟨_, _, rfl⟩
  obtain ⟨-, -, hspace, hmark, hquote, -, hletter⟩ := digitByte_spec d (hds.lt d List.mem_cons_self)
  have hstart : step .gap (digitByte d) = some ([], .number [digitByte d]) := by
    simp [step, start, hspace, hmark, hquote, hletter, isNumeric_digitByte (hds.lt d List.mem_cons_self)]
  rw [List.map_cons] at hread
  rw [hb, List.map_cons, List.cons_append, tokensFrom_silent hstart, tokensFrom_numeric, ← List.reverse_cons,
    tokensFrom_number hr hread]
  intro b hb
  obtain ⟨d', hd', rfl⟩ := List.mem_map.1 hb
  exact isNumeric_digitByte (hds.lt d' (List.mem_cons_of_mem _ hd'))

end EdgeWorker.Json
