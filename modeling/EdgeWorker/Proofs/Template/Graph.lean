import EdgeWorker.Template.Load
import Mathlib.Data.List.Chain
import Mathlib.Logic.Relation

/-!
Partials as a graph, with an edge from each name to the names in its source.

* `Texts.Refers` — the edges; `Texts.Reaches` — what is reached from a source; `Texts.IsChain` — names along edges,
  the first one in a given source;
* `Texts.Sound` — a partial that can be registered: it has a source that can be compiled, and so have all partials
  reached from it. As an inductive predicate it leaves no room for a cycle (`Sound.not_transGen`).
-/

namespace EdgeWorker.Template

open Relation

/-- The sources of partials, as far as they have one. -/
abbrev Texts := String → Option String

namespace Texts

variable {texts : Texts} {n m source text : String} {chain : List String}

/-- The source of one partial refers to another one. -/
def Refers (texts : Texts) (n m : String) : Prop := ∃ text, texts n = some text ∧ m ∈ partialNames text

/-- A partial is referred to in a source, directly or through other partials. -/
def Reaches (texts : Texts) (source n : String) : Prop := ∃ m ∈ partialNames source, ReflTransGen texts.Refers m n

/-- A partial that refers to itself, directly or through others, is reached from a source. -/
def IsCyclic (texts : Texts) (source : String) : Prop := ∃ n, texts.Reaches source n ∧ TransGen texts.Refers n n

/-- Names each of which is referred to by the one before, the first one in a source. -/
def IsChain (texts : Texts) (source : String) (chain : List String) : Prop :=
  (∀ n ∈ chain.head?, n ∈ partialNames source) ∧ chain.IsChain texts.Refers

/-- A partial that can be registered with all that are reached from it. -/
inductive Sound (texts : Texts) : String → Prop
  | of {n text : String} : texts n = some text → (ofText? text).isSome → (∀ m ∈ partialNames text, Sound texts m) →
      Sound texts n

/-! ### Sound partials -/

theorem Sound.exists_text (h : texts.Sound n) : ∃ text, texts n = some text ∧ (ofText? text).isSome := by
  cases h with
  | of ht hc _ => exact ⟨_, ht, hc⟩

theorem Sound.refers (h : texts.Sound n) (hr : texts.Refers n m) : texts.Sound m := by
  cases h with
  | of ht _ hs =>
    obtain ⟨text, ht', hm⟩ := hr
    rw [ht] at ht'
    cases ht'
    exact hs m hm

theorem Sound.reflTransGen (h : texts.Sound n) (hr : ReflTransGen texts.Refers n m) : texts.Sound m := by
  induction hr with
  | refl => exact h
  | tail _ hlast ih => exact ih.refers hlast

/-- A sound partial does not come back to itself. -/
theorem Sound.not_transGen (h : texts.Sound n) : ¬ TransGen texts.Refers n n := by
  induction h with
  | @of n text ht _ _ ih =>
    intro hc
    obtain ⟨m, ⟨text', ht', hm⟩, hmn⟩ := TransGen.head'_iff.1 hc
    rw [ht] at ht'
    cases ht'
    exact ih m hm (TransGen.tail'_iff.2 ⟨n, hmn, text, ht, hm⟩)

/-- Where every partial of a source is sound, so is every one that is reached. -/
theorem Reaches.sound (h : texts.Reaches source n) (hs : ∀ m ∈ partialNames source, texts.Sound m) :
    texts.Sound n := by
  obtain ⟨m, hm, hr⟩ := h
  exact (hs m hm).reflTransGen hr

theorem not_isCyclic_of_sound (hs : ∀ m ∈ partialNames source, texts.Sound m) : ¬ texts.IsCyclic source :=
  fun ⟨_, hr, hc⟩ => (hr.sound hs).not_transGen hc

/-! ### Chains -/

theorem isChain_nil (texts : Texts) (source : String) : texts.IsChain source [] := ⟨by simp, .nil⟩

theorem IsChain.singleton (h : n ∈ partialNames source) : texts.IsChain source [n] := by
  refine ⟨fun m hm => ?_, .singleton n⟩
  cases hm
  exact h

/-- A chain goes on with a name in the source of its last one. -/
theorem IsChain.concat (h : texts.IsChain source (chain ++ [n])) (hm : texts.Refers n m) :
    texts.IsChain source (chain ++ [n] ++ [m]) := by
  refine ⟨?_, ?_⟩
  · cases chain with
    | nil => simpa using h.1
    | cons k chain => simpa using h.1
  · rw [List.isChain_append]
    refine ⟨h.2, .singleton _, fun k hk j hj => ?_⟩
    rw [List.getLast?_concat] at hk
    cases hk
    cases hj
    exact hm

theorem IsChain.dropLast (h : texts.IsChain source (chain ++ [n])) : texts.IsChain source chain := by
  refine ⟨fun m hm => h.1 m ?_, (List.isChain_append.1 h.2).1⟩
  cases chain with
  | nil => cases hm
  | cons k chain => simpa using hm

/-- Every name of a chain leads to its last one. -/
theorem IsChain.reflTransGen_getLast (h : texts.IsChain source chain) (hn : n ∈ chain)
    (hm : chain.getLast? = some m) : ReflTransGen texts.Refers n m := by
  refine h.2.backwards_induction (fun k => ReflTransGen texts.Refers k m) _ (fun _ _ hr hk => .head hr hk) ?_ n hn
  intro hne
  rw [List.getLast?_eq_some_getLast hne, Option.some.injEq] at hm
  rw [hm]

/-- Every name of a chain is reached from the source. -/
theorem IsChain.reaches (h : texts.IsChain source chain) (hn : n ∈ chain) : texts.Reaches source n := by
  refine h.2.induction (texts.Reaches source) _ (fun _ _ hr ⟨k, hk, hkm⟩ => ⟨k, hk, hkm.tail hr⟩) (fun hne => ?_) n hn
  exact ⟨_, h.1 _ (List.head_mem_head? hne), .refl⟩

/-- A chain that comes back to one of its names closes a cycle. -/
theorem IsChain.transGen_of_mem (h : texts.IsChain source (chain ++ [n])) (hn : n ∈ chain) :
    TransGen texts.Refers n n := by
  have hne : chain ≠ [] := List.ne_nil_of_mem hn
  have hl : chain.getLast? = some (chain.getLast hne) := List.getLast?_eq_some_getLast hne
  have hr : texts.Refers (chain.getLast hne) n := (List.isChain_append.1 h.2).2.2 _ hl n (by simp)
  exact TransGen.tail'_iff.2 ⟨_, h.dropLast.reflTransGen_getLast hn hl, hr⟩

end Texts
end EdgeWorker.Template
