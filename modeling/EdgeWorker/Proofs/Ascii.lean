import EdgeWorker.Ascii

/-!
Texts in small letters.
-/

namespace EdgeWorker.Ascii

variable {c d : Char} {cs ds : List Char}

theorem isLower_ofNat : ∀ n < 91, 65 ≤ n → isLower (Char.ofNat (n + 0x20)) := by decide

/-- A character that is not changed is itself, and one that is changed becomes a small letter. -/
theorem toLower_eq_or (c : Char) : toLower c = c ∨ isUpper c ∧ isLower (toLower c) := by
  unfold toLower
  split
  · next hc =>
    have hrange : 65 ≤ c.toNat ∧ c.toNat ≤ 90 := by
      simpa [isUpper, Char.le_def, UInt32.le_iff_toNat_le] using hc
    exact .inr ⟨hc, isLower_ofNat _ (by omega) hrange.1⟩
  · exact .inl rfl

theorem toLower_of_isLower (h : isLower c) : toLower c = c := by
  have hupper : isUpper c = false := by
    simp only [isLower, isUpper, Char.le_def, UInt32.le_iff_toNat_le, Bool.and_eq_true, Bool.and_eq_false_iff,
      decide_eq_true_eq, decide_eq_false_iff_not] at h ⊢
    have ha : 'a'.val.toNat = 97 := rfl
    have hZ : 'Z'.val.toNat = 90 := rfl
    omega
  rw [toLower, hupper, if_neg nofun]

theorem toLower_toLower (c : Char) : toLower (toLower c) = toLower c := by
  rcases toLower_eq_or c with h | ⟨-, h⟩
  · rw [h, h]
  · exact toLower_of_isLower h

theorem isLetter_toLower (h : isLetter c) : isLetter (toLower c) := by
  rcases toLower_eq_or c with hc | ⟨-, hc⟩
  · rwa [hc]
  · rw [isLetter, hc, Bool.true_or]

/-- A letter is a character that is small when it is made small. -/
theorem isLetter_of_toLower (h : toLower c = d) (hd : isLower d) : isLetter c := by
  unfold isLetter
  rcases toLower_eq_or c with hc | ⟨hc, -⟩
  · rw [← hc, h, hd, Bool.true_or]
  · rw [hc, Bool.or_true]

/-- What is no letter is only found where it stands itself. -/
theorem toLower_eq_iff (hd : isLetter d = false) : toLower c = d ↔ c = d := by
  obtain ⟨hlower, hupper⟩ : isLower d = false ∧ isUpper d = false := by simpa [isLetter] using hd
  constructor
  · rintro rfl
    rcases toLower_eq_or c with hc | ⟨-, hc⟩
    · exact hc.symm
    · rw [hc] at hlower
      cases hlower
  · rintro rfl
    rw [toLower, hupper, if_neg nofun]

theorem map_toLower_eq_iff (hds : ∀ d ∈ ds, isLetter d = false) : cs.map toLower = ds ↔ cs = ds := by
  induction cs generalizing ds with
  | nil => rw [List.map_nil]
  | cons c cs ih =>
    cases ds with
    | nil => simp
    | cons d ds =>
      rw [List.map_cons, List.cons.injEq, List.cons.injEq, toLower_eq_iff (hds d List.mem_cons_self),
        ih fun d hd => hds d (List.mem_cons_of_mem _ hd)]

end EdgeWorker.Ascii
