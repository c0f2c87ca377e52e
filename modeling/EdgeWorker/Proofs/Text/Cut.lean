import EdgeWorker.Text.Blank
import EdgeWorker.Text.Search
import Mathlib.Data.List.DropRight
import Mathlib.Data.List.TakeWhile

/-!
Where texts are cut.

* `exists_front`, `takeWhile_front`, `dropWhile_front`, `front_unique` — a text is what stands before the first character
  without a property, and the rest;
* `marked`, `exists_marked`, `cutAt_marked` — a part that may stand behind a mark;
* `trimBy_eq_iff` — what trimming leaves; it stands in the text (`trimBy_isInfix`), with nothing more to trim
  (`trimBy_trimBy`), and keeps what is not of the class (`mem_trimBy`, `trimBy_append_cons`).
-/

namespace EdgeWorker.Text

variable {α : Type} {p : α → Bool} {mark : α} {front back front' back' : List α} {part : Option (List α)}

/-! ### The front of a text -/

theorem isSome_after? [BEq α] [LawfulBEq α] {start text : List α} : (after? start text).isSome ↔ start <+: text := by
  unfold after?
  rw [← List.isPrefixOf_iff_prefix]
  split <;> simp [*]

theorem after?_eq_some_iff [BEq α] [LawfulBEq α] {start text rest : List α} :
    after? start text = some rest ↔ text = start ++ rest := by
  unfold after?
  split
  · next h =>
    obtain ⟨back, rfl⟩ := List.isPrefixOf_iff_prefix.1 h
    rw [List.drop_left, Option.some.injEq, List.append_right_inj]
  · next h => exact ⟨nofun, fun he => absurd (List.isPrefixOf_iff_prefix.2 ⟨rest, he.symm⟩) h⟩

/-- A text is cut where a property fails first. -/
theorem exists_front (p : α → Bool) (cs : List α) :
    ∃ front back, cs = front ++ back ∧ (∀ c ∈ front, p c) ∧ ∀ c ∈ back.head?, p c = false := by
  refine ⟨cs.takeWhile p, cs.dropWhile p, List.takeWhile_append_dropWhile.symm, fun c => List.mem_takeWhile_imp, ?_⟩
  intro c hc
  have h := List.head?_dropWhile_not p cs
  rw [Option.mem_def.1 hc] at h
  simpa using h

theorem takeWhile_front (hfront : ∀ c ∈ front, p c) (hback : ∀ c ∈ back.head?, p c = false) :
    (front ++ back).takeWhile p = front := by
  rw [List.takeWhile_append_of_pos hfront]
  cases back with
  | nil => simp
  | cons c back => rw [List.takeWhile_cons_of_neg (by simpa using hback c rfl), List.append_nil]

theorem dropWhile_front (hfront : ∀ c ∈ front, p c) (hback : ∀ c ∈ back.head?, p c = false) :
    (front ++ back).dropWhile p = back := by
  rw [List.dropWhile_append_of_pos hfront]
  cases back with
  | nil => rfl
  | cons c back => exact List.dropWhile_cons_of_neg (by simpa using hback c rfl)

/-- There is one place where a property fails first. -/
theorem front_unique (hfront : ∀ c ∈ front, p c) (hback : ∀ c ∈ back.head?, p c = false) (hfront' : ∀ c ∈ front', p c)
    (hback' : ∀ c ∈ back'.head?, p c = false) (he : front ++ back = front' ++ back') : front = front' ∧ back = back' := by
  have hsame : front = front' := by rw [← takeWhile_front hfront hback, he, takeWhile_front hfront' hback']
  exact ⟨hsame, List.append_cancel_left (hsame ▸ he)⟩

/-! ### Marks -/

/-- A part behind its mark, if it is there. -/
def marked (mark : α) : Option (List α) → List α
  | some cs => mark :: cs
  | none => []

theorem eq_of_mem_head?_marked {c : α} (h : c ∈ (marked mark part).head?) : c = mark := by
  cases part with
  | none => cases h
  | some cs => exact (Option.some.inj h).symm

section Marks

variable [BEq α] [LawfulBEq α]

theorem takeWhile_marked (h : mark ∉ front) (part : Option (List α)) :
    (front ++ marked mark part).takeWhile (· != mark) = front := by
  refine takeWhile_front (fun c hc => ?_) fun c hc => ?_
  · simpa using fun he : c = mark => h (he ▸ hc)
  · simpa using eq_of_mem_head?_marked hc

/-- What stands before the first of a mark is known from the whole. -/
theorem front_eq (h : mark ∉ front) (h' : mark ∉ front') (he : front ++ mark :: back = front' ++ mark :: back') :
    front = front' := by
  rw [← takeWhile_marked h (some back), ← takeWhile_marked h' (some back')]
  exact congrArg _ he

/-- A text is cut at the first of a mark. -/
theorem exists_marked (mark : α) (cs : List α) : ∃ front part, cs = front ++ marked mark part ∧ mark ∉ front := by
  obtain ⟨front, back, rfl, hfront, hback⟩ := exists_front (· != mark) cs
  have hnot : mark ∉ front := fun h => by simpa using hfront mark h
  cases back with
  | nil => exact ⟨front, none, rfl, hnot⟩
  | cons c back =>
    obtain rfl : c = mark := by simpa using hback
    exact ⟨front, some back, rfl, hnot⟩

theorem cutAt_marked (h : mark ∉ front) (part : Option (List α)) :
    cutAt [mark] (front ++ marked mark part) = part.map (front, ·) := by
  induction front with
  | nil => cases part <;> simp [marked, cutAt, after?]
  | cons c front ih =>
    rw [List.mem_cons, not_or] at h
    simp only [List.cons_append, cutAt, after?, ih h.2]
    cases part <;> simp [h.1]

/-- Where a text without a mark is followed by it or not, only the part behind the mark can begin at one. -/
theorem exists_part {body : List α} (hbody : mark ∉ body) (h : front ++ mark :: back = body ++ marked mark part) :
    ∃ part', front = body ++ marked mark part' := by
  obtain ⟨front, part', rfl, hfront⟩ := exists_marked mark front
  refine ⟨part', congrArg (· ++ _) ?_⟩
  have hwhole : ∃ more, front ++ marked mark part' ++ mark :: back = front ++ mark :: more := by
    cases part' with
    | none => exact ⟨back, by simp [marked]⟩
    | some cs => exact ⟨cs ++ mark :: back, by simp [marked]⟩
  obtain ⟨more, hmore⟩ := hwhole
  cases part with
  | none =>
    rw [hmore, marked, List.append_nil] at h
    exact absurd (by rw [← h]; simp) hbody
  | some cs => exact front_eq hfront hbody (hmore.symm.trans h)

end Marks

/-! ### Trimming -/

variable {q : Char → Bool} {c : Char} {cs ds : List Char}

theorem mem_dropWhile (hq : q c = false) (h : c ∈ cs) : c ∈ cs.dropWhile q := by
  rw [← List.takeWhile_append_dropWhile (p := q) (l := cs), List.mem_append] at h
  refine h.resolve_left fun ht => ?_
  rw [List.mem_takeWhile_imp ht] at hq
  cases hq

theorem mem_trimBy (hq : q c = false) (h : c ∈ cs) : c ∈ trimBy q cs := by
  unfold trimBy dropEnd
  rw [List.mem_reverse]
  exact mem_dropWhile hq (List.mem_reverse.2 (mem_dropWhile hq h))

theorem dropEnd_append_cons (hq : q c = false) (cs ds : List Char) :
    dropEnd q (cs ++ c :: ds) = cs ++ c :: dropEnd q ds := by
  unfold dropEnd
  rw [List.reverse_append, List.reverse_cons, List.append_assoc, List.singleton_append, List.dropWhile_append]
  by_cases hd : ds.reverse.dropWhile q = []
  · simp [hd, hq]
  · simp [hd]

theorem dropWhile_append_cons (hq : q c = false) (cs ds : List Char) :
    (cs ++ c :: ds).dropWhile q = cs.dropWhile q ++ c :: ds := by
  rw [List.dropWhile_append]
  split
  · next h => rw [List.isEmpty_iff.1 h, List.dropWhile_cons_of_neg (by simp [hq]), List.nil_append]
  · rfl

/-- What does not belong to the blanks around a text keeps what is before it and what is behind it apart. -/
theorem trimBy_append_cons (hq : q c = false) (cs ds : List Char) :
    trimBy q (cs ++ c :: ds) = cs.dropWhile q ++ c :: dropEnd q ds := by
  rw [trimBy, dropWhile_append_cons hq, dropEnd_append_cons hq]

theorem dropEnd_eq_rdropWhile (q : Char → Bool) (cs : List Char) : dropEnd q cs = cs.rdropWhile q := rfl

/-- Trimming leaves what stands between a front and an end of the class, if it neither begins nor ends with one of the
class. -/
theorem trimBy_eq_iff : trimBy q cs = ds ↔ ∃ before after, cs = before ++ (ds ++ after) ∧ (∀ c ∈ before, q c) ∧
    (∀ c ∈ after, q c) ∧ (∀ c ∈ ds.head?, q c = false) ∧ ∀ c ∈ ds.getLast?, q c = false := by
  constructor
  · rintro rfl
    rw [trimBy, dropEnd_eq_rdropWhile]
    refine ⟨cs.takeWhile q, (cs.dropWhile q).rtakeWhile q, ?_, fun c => List.mem_takeWhile_imp,
      fun c => List.mem_rtakeWhile_imp, fun c hc => ?_, fun c hc => ?_⟩
    · rw [List.rdropWhile_append_rtakeWhile, List.takeWhile_append_dropWhile]
    · obtain ⟨back, hback⟩ := List.rdropWhile_prefix q (cs.dropWhile q)
      have hhead := List.head?_dropWhile_not q cs
      rw [← hback, List.head?_append, Option.mem_def.1 hc] at hhead
      simpa using hhead
    · obtain ⟨hne, rfl⟩ := List.mem_getLast?_eq_getLast hc
      simpa using List.rdropWhile_last_not q (cs.dropWhile q) hne
  · rintro ⟨before, after, rfl, hbefore, hafter, hhead, hlast⟩
    have hfront : (before ++ (ds ++ after)).dropWhile q = (ds ++ after).dropWhile q := List.dropWhile_append_of_pos hbefore
    have hend : dropEnd q after = [] := by rwa [dropEnd_eq_rdropWhile, List.rdropWhile_eq_nil_iff]
    rw [trimBy, hfront]
    rcases List.eq_nil_or_concat ds with rfl | ⟨init, last, rfl⟩
    · rw [List.nil_append, List.dropWhile_eq_nil_iff.2 hafter]
      rfl
    · rw [List.concat_eq_append] at *
      have hkept : ((init ++ [last]) ++ after).dropWhile q = init ++ last :: after := by
        cases init with
        | nil => exact List.dropWhile_cons_of_neg (by simpa using hhead last rfl)
        | cons c init => simpa using hhead c rfl
      rw [hkept, dropEnd_append_cons (hlast last (by simp)), hend]

/-- What trimming leaves stands in the text as it is. -/
theorem trimBy_isInfix (q : Char → Bool) (cs : List Char) : trimBy q cs <:+: cs := by
  obtain ⟨before, after, hcs, -⟩ := trimBy_eq_iff.1 (rfl : trimBy q cs = _)
  exact ⟨before, after, by rw [List.append_assoc, ← hcs]⟩

/-- Nothing is left to trim. -/
theorem trimBy_trimBy (q : Char → Bool) (cs : List Char) : trimBy q (trimBy q cs) = trimBy q cs := by
  obtain ⟨-, -, -, -, -, hhead, hlast⟩ := trimBy_eq_iff.1 (rfl : trimBy q cs = _)
  exact trimBy_eq_iff.2 ⟨[], [], by simp, by simp, by simp, hhead, hlast⟩

end EdgeWorker.Text
