import EdgeWorker.Proofs.Template.Built
import EdgeWorker.Proofs.Template.Run
import Mathlib.Data.Finset.Card

/-!
Loads come to an end.

A load asks for the partial of each name once at most. The names that it has behind it (`seen`) are those of the registered
partials and those of the frames. No move takes one away (`Library.Move.seen_subset`), a partial is fetched only if its name
is not among them (`Load.Fresh`), and then it is. So, where there are finitely many names, those that are left bound the
answers that a load may still wait for (`Load.rank`), every step lowers the bound (`step_rank_lt`), and turns that lower a
bound lead to an end (`exists_run_carryOn_eq`).

A computation whose steps are bounded `Converges` where it does not need more than some number of them.
-/

namespace EdgeWorker

namespace Action

variable {Ask : Type} {Answer : Ask → Type} {α β σ : Type} {handle : (q : Ask) → σ → Answer q × σ} {s : σ} {Q : α → Prop}

/-- From some number of steps on, a computation runs the same with more of them, and its result has `Q`. -/
def Converges (handle : (q : Ask) → σ → Answer q × σ) (m : Nat → Action Ask Answer α) (Q : α → Prop) (s : σ) : Prop :=
  ∃ least, Q ((m least).run handle s).1 ∧ ∀ more, (m (least + more)).run handle s = (m least).run handle s

theorem converges_const {m : Action Ask Answer α} (h : Q (m.run handle s).1) : Converges handle (fun _ => m) Q s :=
  ⟨0, h, fun _ => rfl⟩

theorem Converges.bind {m : Nat → Action Ask Answer α} {f : Nat → α → Action Ask Answer β} {R : β → Prop}
    (h : Converges handle m Q s) (hf : ∀ a s', Q a → Converges handle (f · a) R s') :
    Converges handle (fun steps => m steps >>= f steps) R s := by
  obtain ⟨least, hQ, hm⟩ := h
  obtain ⟨least', hR, hf⟩ := hf _ ((m least).run handle s).2 hQ
  have hrun (more : Nat) : (m (least + least' + more) >>= f (least + least' + more)).run handle s =
      (f least' ((m least).run handle s).1).run handle ((m least).run handle s).2 := by
    rw [run_do, Nat.add_assoc, hm, ← hf (least + more)]
    congr 2
    omega
  refine ⟨least + least', ?_, fun more => (hrun more).trans (hrun 0).symm⟩
  exact (hrun 0).symm ▸ hR

/-- What comes before does not depend on the steps. -/
theorem converges_bind {m : Action Ask Answer α} {f : Nat → α → Action Ask Answer β} {R : β → Prop}
    (hf : ∀ a s', Converges handle (f · a) R s') : Converges handle (fun steps => m >>= f steps) R s :=
  (converges_const (Q := fun _ => True) trivial).bind fun a s' _ => hf a s'

end Action

namespace Template

open EdgeWorker.Host

variable {σ : Type} {handle : Handler σ} {site : Site} {l l' : Library} {frames frames' : List Frame} {load : Load}
  {names : List String} {path source : String}

/-- The names that a load has behind it: those of the registered partials, and those on the way to where it is. -/
def seen (l : Library) (frames : List Frame) : List String := l.loaded ++ chainOf frames

theorem Library.Move.seen_subset (h : Library.Move (l, frames) (l', frames')) : seen l frames ⊆ seen l' frames' := by
  unfold seen
  cases h with
  | leave => simp
  | register h =>
    obtain ⟨t, -, rfl⟩ := Library.addPartial_eq_ok.1 h
    intro n hn
    simp only [chainOf_cons, Option.toList_some, List.mem_append, List.mem_singleton] at hn
    rcases hn with hn | hn | rfl
    · exact List.mem_append_left _ (.tail _ hn)
    · exact List.mem_append_right _ hn
    · exact List.mem_append_left _ (.head _)
  | skip => rw [chainOf_cons, chainOf_cons]; exact fun _ h => h

def Load.part? : Load → Option String
  | .atPart _ _ name _ => some name
  | _ => none

/-- The partial that a load waits for is not behind it. -/
def Load.Fresh (l : Library) : Load → Prop
  | .atPart _ _ name frames => name ∉ seen l frames
  | _ => True

/-- How many of the names a load does not have behind it. -/
def unseen (names : List String) (l : Library) (frames : List Frame) : Nat :=
  (names.toFinset \ (seen l frames).toFinset).card

/-- A bound on the answers that a load may still wait for, where there are partials of these names only. -/
def Load.rank (names : List String) (l : Library) : Load → Nat
  | .done _ => 0
  | .atPart _ _ _ frames => unseen names l frames + 1
  | .atNetwork _ => names.length + 2
  | .atCache _ => names.length + 3

theorem unseen_le_length (names : List String) (l : Library) (frames : List Frame) : unseen names l frames ≤ names.length :=
  (Finset.card_le_card Finset.sdiff_subset).trans names.toFinset_card_le

theorem unseen_mono (h : seen l frames ⊆ seen l' frames') : unseen names l' frames' ≤ unseen names l frames := by
  refine Finset.card_le_card (Finset.sdiff_subset_sdiff (Finset.Subset.refl _) fun n hn => ?_)
  exact List.mem_toFinset.2 (h (List.mem_toFinset.1 hn))

/-- A name that is entered is not left any more. -/
theorem unseen_enter_lt {name text : String} (hn : name ∈ names) (hnew : name ∉ seen l frames) :
    unseen names l (Frame.of (some name) text :: frames) < unseen names l frames := by
  have hseen : seen l (Frame.of (some name) text :: frames) = seen l frames ++ [name] := by
    simp [seen, Frame.of]
  refine Finset.card_lt_card (Finset.ssubset_iff_subset_ne.2 ⟨?_, fun heq => ?_⟩)
  · refine Finset.sdiff_subset_sdiff (Finset.Subset.refl _) fun n hn => ?_
    rw [hseen]
    exact List.mem_toFinset.2 (List.mem_append_left _ (List.mem_toFinset.1 hn))
  · have hleft : name ∈ names.toFinset \ (seen l frames).toFinset := by simp [hn, hnew]
    rw [← heq, hseen] at hleft
    simp at hleft

/-! ### Steps -/

/-- Frames are followed up to the end of the load, or to a partial that is not behind it; all that was behind it still is. -/
theorem advance_cases (l : Library) (path source : String) (frames : List Frame) :
    (∃ outcome, (Load.advance l path source frames).2.2 = .done outcome) ∨
      ∃ name rest, (Load.advance l path source frames).2.2 = .atPart path source name rest ∧
        seen l frames ⊆ seen (Load.advance l path source frames).1 rest ∧
        name ∉ seen (Load.advance l path source frames).1 rest := by
  refine advance_induction (I := fun l' rest => seen l frames ⊆ seen l' rest)
    (P := fun l' load => (∃ outcome, load = .done outcome) ∨ ∃ name rest, load = .atPart path source name rest ∧
      seen l frames ⊆ seen l' rest ∧ name ∉ seen l' rest)
    (fun hm hs => List.Subset.trans hs hm.seen_subset) (List.Subset.refl _) ?_ ?_ ?_
  · exact fun _ _ => .inl ⟨_, rfl⟩
  · exact fun _ _ => .inl ⟨_, rfl⟩
  · intro l' owner text name pending rest hseen hchain hloaded
    refine .inr ⟨name, _, rfl, ?_, fun h => (List.mem_append.1 h).elim hloaded hchain⟩
    unfold seen at hseen ⊢
    rwa [chainOf_cons] at hseen ⊢

theorem advance_fresh (l : Library) (path source : String) (frames : List Frame) :
    (Load.advance l path source frames).2.2.Fresh (Load.advance l path source frames).1 := by
  rcases advance_cases l path source frames with ⟨outcome, h⟩ | ⟨name, rest, h, -, hnew⟩
  · rw [h]
    trivial
  · rw [h]
    exact hnew

theorem advance_rank_le (l : Library) (path source : String) (frames : List Frame) :
    (Load.advance l path source frames).2.2.rank names (Load.advance l path source frames).1 ≤ unseen names l frames + 1 := by
  rcases advance_cases l path source frames with ⟨outcome, h⟩ | ⟨name, rest, h, hseen, -⟩
  · rw [h]
    exact Nat.zero_le _
  · rw [h]
    exact Nat.succ_le_succ (unseen_mono hseen)

/-- Whatever a load is told, the partial that it waits for next is not behind it. -/
theorem step_fresh (site : Site) (l : Library) (load : Load) : (load.step site l).2.2.Fresh (load.step site l).1 := by
  refine step_induction (P := fun l' load' => load'.Fresh l') ?_ ?_ ?_ ?_
  · rintro outcome rfl
    trivial
  · exact fun _ => trivial
  · exact fun _ _ => trivial
  · exact fun _ => advance_fresh l _ _ _

theorem Load.rank_pos (names : List String) (l : Library) (hw : load.Waiting) : 0 < load.rank names l := by
  cases load with
  | done => exact hw.elim
  | _ => exact Nat.succ_pos _

/-- What a load enters is nearer to its end than where it waited. -/
theorem Load.Enters.unseen_lt (henters : load.Enters site path source frames)
    (hname : ∀ name text, load.part? = some name → site.fetched (site.partialPath name) = .ok text → name ∈ names)
    (h : load.Fresh l) : unseen names l frames + 1 < load.rank names l := by
  cases henters with
  | cached => exact Nat.succ_lt_succ (Nat.lt_succ_of_le ((unseen_le_length names l _).trans (Nat.le_succ _)))
  | fetched => exact Nat.succ_lt_succ (Nat.lt_succ_of_le (unseen_le_length names l _))
  | part htext => exact Nat.succ_lt_succ (unseen_enter_lt (hname _ _ rfl htext) h)

/-- A step lowers the bound. -/
theorem step_rank_lt
    (hname : ∀ name text, load.part? = some name → site.fetched (site.partialPath name) = .ok text → name ∈ names)
    (h : load.Fresh l) (hw : load.Waiting) : (load.step site l).2.2.rank names (load.step site l).1 < load.rank names l := by
  refine step_induction (P := fun l' load' => load'.rank names l' < load.rank names l) ?_ ?_ ?_ ?_
  · rintro outcome rfl
    exact hw.elim
  · exact fun _ => load.rank_pos names l hw
  · rintro path rfl -
    exact Nat.lt_succ_self _
  · exact fun henters => Nat.lt_of_le_of_lt (advance_rank_le l _ _ _) (henters.unseen_lt hname h)

/-! ### Loads -/

namespace Engine

variable {e : Engine}

theorem turn_fresh (handle : Handler σ) (e : Engine) (load : Load) (s : σ) :
    (e.turn handle load s).2.1.Fresh (e.turn handle load s).1.library := by
  rw [turn_library, turn_load]
  exact step_fresh _ _ load

/-- A load that was not cut off does not use more steps. -/
theorem run_carryOn_add {path : String} {steps : Nat} {s : σ}
    (h : ((carryOn path steps e load).run handle s).1.1 ≠ .error (.endless path)) (more : Nat) :
    (carryOn path (steps + more) e load).run handle s = (carryOn path steps e load).run handle s := by
  induction steps generalizing e load s with
  | zero =>
    rcases load.waiting_or_done with hw | ⟨outcome, rfl⟩
    · rw [run_carryOn_zero hw] at h
      exact absurd rfl h
    · rw [run_carryOn_done, run_carryOn_done]
  | succ steps ih =>
    rcases load.waiting_or_done with hw | ⟨outcome, rfl⟩
    · rw [run_carryOn_succ steps hw] at h
      rw [Nat.add_right_comm, run_carryOn_succ _ hw, run_carryOn_succ _ hw]
      exact ih h
    · rw [run_carryOn_done, run_carryOn_done]

theorem run_loadWithin_add {path : String} {steps : Nat} {s : σ}
    (h : ((e.loadWithin steps path).run handle s).1.1 ≠ .error (.endless path)) (more : Nat) :
    (e.loadWithin (steps + more) path).run handle s = (e.loadWithin steps path).run handle s := run_carryOn_add h more

/-- Turns that lower a bound take a load to its end, and then it does not use more steps. -/
theorem exists_run_carryOn_eq (handle : Handler σ) {I : Engine → Load → Prop} (rank : Engine → Load → Nat)
    (hturn : ∀ {e load} (s : σ), load.Waiting → I e load → I (e.turn handle load s).1 (e.turn handle load s).2.1 ∧
      rank (e.turn handle load s).1 (e.turn handle load s).2.1 < rank e load)
    {steps : Nat} (h : I e load) (hrank : rank e load ≤ steps) (path : String) (s : σ) :
    ∃ outcome e' s', I e' (.done outcome) ∧
      ∀ more, (carryOn path (steps + more) e load).run handle s = ((outcome, e'), s') := by
  induction steps generalizing e load s with
  | zero =>
    rcases load.waiting_or_done with hw | ⟨outcome, rfl⟩
    · exact absurd ((hturn s hw h).2.trans_le hrank) (Nat.not_lt_zero _)
    · exact ⟨outcome, e, s, h, fun more => run_carryOn_done _ outcome⟩
  | succ steps ih =>
    rcases load.waiting_or_done with hw | ⟨outcome, rfl⟩
    · obtain ⟨hnext, hlt⟩ := hturn s hw h
      obtain ⟨outcome, e', s', hdone, hrun⟩ := ih hnext (Nat.le_of_lt_succ (hlt.trans_le hrank)) (e.turn handle load s).2.2
      refine ⟨outcome, e', s', hdone, fun more => ?_⟩
      rw [Nat.add_right_comm, run_carryOn_succ _ hw]
      exact hrun more
    · exact ⟨outcome, e, s, h, fun more => run_carryOn_done _ outcome⟩

end Engine
end Template
end EdgeWorker
