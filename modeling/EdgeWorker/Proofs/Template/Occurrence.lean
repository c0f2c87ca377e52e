import EdgeWorker.Proofs.Template.Reference
import EdgeWorker.Proofs.Text.Cut
import Mathlib.Data.List.Induction

/-!
The names that a source refers to are those of all references that stand in it.

* `Spells reference name` — a text that is a reference with this name; a text that begins with one is read as one, in
  just one way (`reference?_eq_some_iff`);
* `RefersAt text name i` — at this place of a text stands a reference with this name; no reference begins within another
  one (`refersAt_behind`), so that none is missed by going on behind it (`exists_refersAt`, `mem_references`);
* `partialNames_spec` — the names of all references in a source, each once, in the order of their first places.
-/

namespace EdgeWorker.Template

open EdgeWorker.Text

variable {text reference before after name tail rest cs : List Char} {m n : String} {i j : Nat}

/-! ### Characters -/

/-- The blanks and the characters of names are kept apart, so that there is one way to read a reference. -/
theorem isNameChar_of_isBlank {c : Char} (h : isBlank c) : isNameChar c = false := by
  have hword : ∀ n ∈ [0x09, 0x0A, 0x0B, 0x0C, 0x0D, 0x20, 0x85, 0xA0, 0x1680, 0x2000, 0x2001, 0x2002, 0x2003, 0x2004,
      0x2005, 0x2006, 0x2007, 0x2008, 0x2009, 0x200A, 0x2028, 0x2029, 0x202F, 0x205F, 0x3000],
      inRanges n wordRanges = false := by decide +kernel
  have hhyphen : c ≠ '-' := by
    rintro rfl
    cases h
  have hcode : isWord c = false := by
    refine hword c.toNat ?_
    simp only [isBlank, Bool.or_eq_true, Bool.and_eq_true, decide_eq_true_eq, beq_iff_eq] at h
    simp only [List.mem_cons, List.not_mem_nil, or_false]
    omega
  simp [isNameChar, hcode, hhyphen]

theorem not_isBlank_of_isNameChar {c : Char} (h : isNameChar c) : isBlank c = false := by
  by_contra hc
  rw [isNameChar_of_isBlank (by simpa using hc)] at h
  cases h

theorem isNameChar_brace : isNameChar '{' = false ∧ isNameChar '}' = false := by decide +kernel

/-! ### References -/

/-- A text that is a reference with a name: the opening mark, blanks, the name, blanks and the closing mark. -/
def Spells (reference name : List Char) : Prop := ∃ before after,
  reference = ['{', '{', '>'] ++ (before ++ (name ++ (after ++ ['}', '}']))) ∧ (∀ c ∈ before, isBlank c) ∧
    (∀ c ∈ after, isBlank c) ∧ name ≠ [] ∧ ∀ c ∈ name, isNameChar c

/-- The opening mark is followed by as many blanks, characters of names and blanks again as there are. -/
theorem reference?_append (hbefore : ∀ c ∈ before, isBlank c) (hname : ∀ c ∈ name, isNameChar c)
    (hafter : ∀ c ∈ after, isBlank c) (hnamed : ∀ c ∈ (name ++ (after ++ tail)).head?, isBlank c = false)
    (hbehind : ∀ c ∈ (after ++ tail).head?, isNameChar c = false) (htail : ∀ c ∈ tail.head?, isBlank c = false) :
    reference? (['{', '{', '>'] ++ (before ++ (name ++ (after ++ tail)))) =
      if name.isEmpty then none else (after? ['}', '}'] tail).map (name, ·) := by
  unfold reference?
  rw [after?_eq_some_iff.2 rfl]
  simp only [dropWhile_front hbefore hnamed, takeWhile_front hname hbehind, dropWhile_front hname hbehind,
    dropWhile_front hafter htail]

/-- A text is read as a reference and the rest in just the way in which it is made of them. -/
theorem reference?_eq_some_iff :
    reference? text = some (name, rest) ↔ ∃ reference, text = reference ++ rest ∧ Spells reference name := by
  constructor
  · intro h
    obtain ⟨inner, rfl⟩ : ∃ inner, text = ['{', '{', '>'] ++ inner := by
      cases hinner : after? ['{', '{', '>'] text with
      | none => simp [reference?, hinner] at h
      | some inner => exact ⟨inner, after?_eq_some_iff.1 hinner⟩
    obtain ⟨before, named, rfl, hbefore, hnamed⟩ := exists_front isBlank inner
    obtain ⟨taken, behind, rfl, htaken, hbehind⟩ := exists_front isNameChar named
    obtain ⟨after, tail, rfl, hafter, htail⟩ := exists_front isBlank behind
    rw [reference?_append hbefore htaken hafter hnamed hbehind htail] at h
    split at h
    · cases h
    · next hne =>
      obtain ⟨rest', hrest, he⟩ := Option.map_eq_some_iff.1 h
      cases he
      rw [after?_eq_some_iff] at hrest
      exact ⟨_, by simp [hrest], before, after, rfl, hbefore, hafter, by simpa using hne, htaken⟩
  · rintro ⟨reference, rfl, before, after, rfl, hbefore, hafter, hne, hname⟩
    have hnamed : ∀ c ∈ (name ++ (after ++ ('}' :: '}' :: rest))).head?, isBlank c = false := by
      intro c hc
      obtain ⟨d, ds, rfl⟩ := List.exists_cons_of_ne_nil hne
      cases hc
      exact not_isBlank_of_isNameChar (hname _ List.mem_cons_self)
    have hbehind : ∀ c ∈ (after ++ ('}' :: '}' :: rest)).head?, isNameChar c = false := by
      intro c hc
      cases after with
      | nil =>
        cases hc
        exact isNameChar_brace.2
      | cons d ds =>
        cases hc
        exact isNameChar_of_isBlank (hafter _ List.mem_cons_self)
    have hread := reference?_append hbefore hname hafter hnamed hbehind fun c hc => by
      cases hc
      rfl
    rw [if_neg (by simpa using hne), after?_eq_some_iff.2 (rfl : '}' :: '}' :: rest = ['}', '}'] ++ rest)] at hread
    simpa using hread

/-- Behind its first brace a reference has one brace more before the closing mark. -/
theorem Spells.exists_tail (h : Spells reference name) : ∃ tail, reference = '{' :: '{' :: '>' :: tail ∧ '{' ∉ tail := by
  obtain ⟨before, after, rfl, hbefore, hafter, -, hname⟩ := h
  refine ⟨before ++ (name ++ (after ++ ['}', '}'])), rfl, fun hmem => ?_⟩
  simp only [List.mem_append, List.mem_cons, List.not_mem_nil, or_false] at hmem
  rcases hmem with hmem | hmem | hmem | hmem | hmem
  · exact absurd (hbefore _ hmem) (by decide)
  · exact absurd (hname _ hmem) (by rw [isNameChar_brace.1]; decide)
  · exact absurd (hafter _ hmem) (by decide)
  · cases hmem
  · cases hmem

/-! ### Places -/

/-- At a place of a text stands a reference with a name. -/
def RefersAt (text : List Char) (name : String) (i : Nat) : Prop :=
  ∃ front reference back, text = front ++ (reference ++ back) ∧ front.length = i ∧ Spells reference name.toList

theorem refersAt_zero : RefersAt text n 0 ↔ ∃ rest, reference? text = some (n.toList, rest) := by
  constructor
  · rintro ⟨front, reference, back, rfl, hfront, h⟩
    obtain rfl := List.length_eq_zero_iff.1 hfront
    exact ⟨back, reference?_eq_some_iff.2 ⟨reference, rfl, h⟩⟩
  · rintro ⟨rest, h⟩
    obtain ⟨reference, rfl, hspells⟩ := reference?_eq_some_iff.1 h
    exact ⟨[], reference, rest, rfl, rfl, hspells⟩

theorem refersAt_cons {c : Char} : RefersAt (c :: text) n (i + 1) ↔ RefersAt text n i := by
  constructor
  · rintro ⟨front, reference, back, he, hfront, h⟩
    obtain ⟨d, front, rfl⟩ := List.exists_cons_of_length_eq_add_one hfront
    exact ⟨front, reference, back, (List.cons.inj he).2, Nat.succ.inj hfront, h⟩
  · rintro ⟨front, reference, back, rfl, hfront, h⟩
    exact ⟨c :: front, reference, back, rfl, congrArg (· + 1) hfront, h⟩

/-- Where a reference stands a text goes on with two braces. -/
theorem RefersAt.eq_braces (h : RefersAt text n 0) : ∃ more, text = '{' :: '{' :: more := by
  obtain ⟨front, reference, back, rfl, hfront, h⟩ := h
  obtain rfl := List.length_eq_zero_iff.1 hfront
  obtain ⟨tail, rfl, -⟩ := h.exists_tail
  exact ⟨_, rfl⟩

/-- A place has one reference. -/
theorem RefersAt.unique (h : RefersAt text m i) (h' : RefersAt text n i) : m = n := by
  induction i generalizing text with
  | zero =>
    obtain ⟨rest, h⟩ := refersAt_zero.1 h
    obtain ⟨rest', h'⟩ := refersAt_zero.1 h'
    exact String.toList_inj.1 (congrArg Prod.fst (Option.some.inj (h.symm.trans h')))
  | succ i ih =>
    cases text with
    | nil =>
      obtain ⟨front, reference, back, he, hfront, -⟩ := h
      rw [(List.append_eq_nil_iff.1 he.symm).1] at hfront
      cases hfront
    | cons c text => exact ih (refersAt_cons.1 h) (refersAt_cons.1 h')

/-- No reference begins in a text without braces. -/
theorem refersAt_append (hcs : '{' ∉ cs) : RefersAt (cs ++ text) n i ↔ ∃ k, i = cs.length + k ∧ RefersAt text n k := by
  induction cs generalizing i with
  | nil => simp
  | cons c cs ih =>
    rw [List.mem_cons, not_or] at hcs
    cases i with
    | zero =>
      refine ⟨fun h => ?_, fun ⟨k, hk, _⟩ => ?_⟩
      · obtain ⟨more, he⟩ := h.eq_braces
        exact absurd (List.cons.inj he).1.symm hcs.1
      · rw [List.length_cons] at hk
        omega
    | succ i =>
      rw [List.cons_append, refersAt_cons, ih hcs.2, List.length_cons]
      exact exists_congr fun k => and_congr_left fun _ => by omega

/-- No reference begins within another one. -/
theorem refersAt_behind (h : Spells reference name) :
    RefersAt (reference ++ text) n (i + 1) ↔ ∃ k, i + 1 = reference.length + k ∧ RefersAt text n k := by
  obtain ⟨tail, rfl, htail⟩ := h.exists_tail
  have hmark : '{' ∉ '>' :: tail := by simpa using htail
  rw [List.cons_append, refersAt_cons]
  cases i with
  | zero =>
    refine ⟨fun h => ?_, fun ⟨k, hk, _⟩ => ?_⟩
    · obtain ⟨more, he⟩ := h.eq_braces
      cases he
    · simp only [List.length_cons] at hk
      omega
  | succ i =>
    rw [List.cons_append, refersAt_cons, refersAt_append hmark]
    simp only [List.length_cons]
    exact exists_congr fun k => and_congr_left fun _ => by omega

/-! ### All references of a text -/

/-- The name of every reference in a text is found. -/
theorem mem_references (h : RefersAt text n i) : n ∈ references text := by
  fun_induction references text generalizing i with
  | case1 =>
    obtain ⟨front, reference, back, he, -, h⟩ := h
    obtain ⟨tail, rfl, -⟩ := h.exists_tail
    simp at he
  | case2 c text taken rest hr ih =>
    obtain ⟨reference, he, hspells⟩ := reference?_eq_some_iff.1 hr
    cases i with
    | zero =>
      obtain ⟨rest', h⟩ := refersAt_zero.1 h
      rw [hr] at h
      cases h
      simp
    | succ i =>
      rw [he] at h
      obtain ⟨k, -, h⟩ := (refersAt_behind hspells).1 h
      exact List.mem_cons_of_mem _ (ih h)
  | case3 c text hr ih =>
    cases i with
    | zero =>
      obtain ⟨rest', h⟩ := refersAt_zero.1 h
      exact absurd h (by simp [hr])
    | succ i => exact ih (refersAt_cons.1 h)

/-- Every name that is found is that of a reference, and the references that stand before it were found before it. -/
theorem exists_refersAt {pre post : List String} (h : references text = pre ++ m :: post) :
    ∃ i, RefersAt text m i ∧ ∀ n j, RefersAt text n j → j < i → n ∈ pre := by
  fun_induction references text generalizing pre with
  | case1 => simp at h
  | case2 c text taken rest hr ih =>
    obtain ⟨reference, he, hspells⟩ := reference?_eq_some_iff.1 hr
    have htaken : RefersAt (c :: text) (String.ofList taken) 0 := refersAt_zero.2 ⟨rest, by rw [hr, String.toList_ofList]⟩
    cases pre with
    | nil =>
      cases (List.cons.inj h).1
      exact ⟨0, htaken, fun _ _ _ hj => absurd hj (Nat.not_lt_zero _)⟩
    | cons p pre =>
      obtain ⟨rfl, hrest⟩ := List.cons.inj h
      obtain ⟨i, hi, hbefore⟩ := ih hrest
      obtain ⟨tail, hreference, -⟩ := hspells.exists_tail
      have hlength : reference.length + i = (reference.length - 1 + i) + 1 := by
        rw [hreference, List.length_cons]
        omega
      refine ⟨reference.length + i, ?_, fun n j hn hj => ?_⟩
      · rw [he, hlength, refersAt_behind hspells, ← hlength]
        exact ⟨i, rfl, hi⟩
      · cases j with
        | zero =>
          rw [hn.unique htaken]
          exact List.mem_cons_self
        | succ j =>
          rw [he] at hn
          obtain ⟨k, hk, hn⟩ := (refersAt_behind hspells).1 hn
          exact List.mem_cons_of_mem _ (hbefore n k hn (by omega))
  | case3 c text hr ih =>
    obtain ⟨i, hi, hbefore⟩ := ih h
    refine ⟨i + 1, refersAt_cons.2 hi, fun n j hn hj => ?_⟩
    cases j with
    | zero =>
      obtain ⟨rest', hn⟩ := refersAt_zero.1 hn
      exact absurd hn (by simp [hr])
    | succ j => exact hbefore n j (refersAt_cons.1 hn) (by omega)

/-- Of names that are listed once, in the order of their first places, the second one was not met before the first. -/
theorem pairwise_eraseDups (names : List String) :
    names.eraseDups.Pairwise fun m n => m ≠ n ∧ ∃ pre post, names = pre ++ m :: post ∧ n ∉ pre := by
  induction names using List.reverseRecOn with
  | nil => exact List.Pairwise.nil
  | append_singleton names last ih =>
    have hmono : names.eraseDups.Pairwise fun m n => m ≠ n ∧ ∃ pre post, names ++ [last] = pre ++ m :: post ∧ n ∉ pre := by
      refine ih.imp ?_
      rintro m n ⟨hne, pre, post, rfl, hn⟩
      exact ⟨hne, pre, post ++ [last], by simp, hn⟩
    rw [List.eraseDups_append]
    by_cases h : last ∈ names
    · simpa [List.removeAll, h] using hmono
    · rw [show ([last].removeAll names).eraseDups = [last] by simp [List.removeAll, h, List.eraseDups_cons]]
      refine List.pairwise_append.2 ⟨hmono, List.pairwise_singleton _ _, fun m hm n hn => ?_⟩
      rw [List.mem_singleton.1 hn]
      rw [List.mem_eraseDups] at hm
      obtain ⟨pre, post, rfl⟩ := List.append_of_mem hm
      exact ⟨fun he => h (he ▸ hm), pre, post ++ [last], by simp, fun hl => h (List.mem_append_left _ hl)⟩

/-- The partials that a source refers to are the names of all references that stand in it, wherever that is; each is
listed once, and before those whose references all stand behind its first one. -/
theorem partialNames_spec (source : String) :
    (∀ name, name ∈ partialNames source ↔ ∃ i, RefersAt source.toList name i) ∧ (partialNames source).Nodup ∧
      (partialNames source).Pairwise fun m n => ∃ i, RefersAt source.toList m i ∧ ∀ j, RefersAt source.toList n j → i < j := by
  have hpairs := pairwise_eraseDups (references source.toList)
  refine ⟨fun name => ?_, hpairs.imp And.left, hpairs.imp ?_⟩
  · rw [partialNames, List.mem_eraseDups]
    constructor
    · intro h
      obtain ⟨pre, post, h⟩ := List.append_of_mem h
      obtain ⟨i, hi, -⟩ := exists_refersAt h
      exact ⟨i, hi⟩
    · rintro ⟨i, h⟩
      exact mem_references h
  · rintro m n ⟨hne, pre, post, he, hn⟩
    obtain ⟨i, hi, hbefore⟩ := exists_refersAt he
    refine ⟨i, hi, fun j hj => ?_⟩
    have hle : i ≤ j := Nat.not_lt.1 fun hlt => hn (hbefore n j hj hlt)
    have hij : i ≠ j := by
      rintro rfl
      exact hne (hi.unique hj)
    omega

end EdgeWorker.Template
