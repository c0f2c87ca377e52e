import EdgeWorker.Base64
import EdgeWorker.Proofs.Text.Utf8

/-!
Bytes are read back from their base64 (`decode?_encode`): every six bits from their letter (`value?_letter`), and every
group of bytes from its four letters.
-/

namespace EdgeWorker.Base64

open EdgeWorker.Text

theorem value?_letter : ∀ n < 64, value? (letter n) = some n := by decide

theorem letter_ne_padding : ∀ n < 64, letter n ≠ '=' := by decide

/-- Four letters without padding are three bytes. -/
theorem decode?_letters {a b c d : Nat} (ha : a < 64) (hb : b < 64) (hc : c < 64) (hd : d < 64) {cs : List Char}
    {bytes : Bytes} (h : decode? cs = some bytes) :
    decode? (letter a :: letter b :: letter c :: letter d :: cs) = some (UInt8.ofNat (a * 4 + b / 16) ::
      UInt8.ofNat (b % 16 * 16 + c / 4) :: UInt8.ofNat (c % 4 * 64 + d) :: bytes) := by
  rw [decode?]
  · rw [value?_letter a ha, value?_letter b hb, value?_letter c hc, value?_letter d hd, h]
  · exact fun h => absurd h (letter_ne_padding c hc)
  · exact fun h => absurd h (letter_ne_padding d hd)

theorem ofNat_eq {n : Nat} {b : UInt8} (h : n = b.toNat) : UInt8.ofNat n = b := by
  rw [h, UInt8.ofNat_toNat]

theorem decode?_encode (bytes : Bytes) : decode? (encode bytes) = some bytes := by
  induction bytes using encode.induct with
  | case1 => rfl
  | case2 a =>
    have ha := a.toNat_lt
    simp only [encode, decode?]
    rw [value?_letter _ (by omega), value?_letter _ (by omega)]
    dsimp only
    rw [if_pos (by omega), ofNat_eq (b := a) (by omega)]
  | case3 a b =>
    have ha := a.toNat_lt
    have hb := b.toNat_lt
    rw [encode, decode?]
    · rw [value?_letter _ (by omega), value?_letter _ (by omega), value?_letter _ (by omega)]
      dsimp only
      rw [if_pos (by omega), ofNat_eq (b := a) (by omega), ofNat_eq (b := b) (by omega)]
    · exact letter_ne_padding _ (by omega)
  | case4 a b c rest ih =>
    have ha := a.toNat_lt
    have hb := b.toNat_lt
    have hc := c.toNat_lt
    rw [encode, decode?_letters (by omega) (by omega) (by omega) (by omega) ih]
    rw [ofNat_eq (b := a) (by omega), ofNat_eq (b := b) (by omega), ofNat_eq (b := c) (by omega)]

end EdgeWorker.Base64
