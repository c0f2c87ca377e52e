import EdgeWorker.Proofs.Route.Spec
import Mathlib.Data.List.Infix

/-!
The grammar of the short form of a route, said without a scan.

* `FirstCut` — a text is cut at the first place of a mark; there is one such cut (`FirstCut.eq`), and a mark whose first
  character is not in it again is cut where it does not stand before (`FirstCut.of_absent`);
* `Means` — what a part stands for; it is what trimming makes of it (`means_iff`);
* `Grammar` — the clauses of the short form; by them a text means what its parts mean (`grammar_source_iff`), and so it
  is read (`Spec.ofText_iff_grammar`).
-/

namespace EdgeWorker.Route

open EdgeWorker.Text

variable {cs front back : List Char}

/-! ### Clauses -/

/-- What stands before the first place of a mark in a text and what stands behind it; nothing if the mark is not there. -/
inductive FirstCut (mark cs : List Char) : Option (List Char × List Char) → Prop
  | at {front back : List Char} : cs = front ++ (mark ++ back) →
      (∀ front' back', cs = front' ++ (mark ++ back') → front.length ≤ front'.length) →
      FirstCut mark cs (some (front, back))
  | nowhere : ¬ mark <:+: cs → FirstCut mark cs none

/-- What a part stands for: the text in it that neither begins nor ends with a blank, with blanks only around it; nothing
if it is blank. -/
inductive Means (cs : List Char) : Option String → Prop
  | blank : (∀ c ∈ cs, isBlank c) → Means cs none
  | text {before ds after : List Char} : cs = before ++ (ds ++ after) →
      (∀ c ∈ before, isBlank c) → (∀ c ∈ after, isBlank c) →
      ds ≠ [] → (∀ c ∈ ds.head?, isBlank c = false) → (∀ c ∈ ds.getLast?, isBlank c = false) →
      Means cs (some (String.ofList ds))

/-- What stands for a function: what the part stands for, except that `()` is no function. -/
inductive MeansFunction (cs : List Char) : Option String → Prop
  | blank : Means cs none → MeansFunction cs none
  | placeholder : Means cs (some "()") → MeansFunction cs none
  | function {f : String} : Means cs (some f) → f ≠ "()" → MeansFunction cs (some f)

/-- What stands for a path and a template: the first `=>` ends the path, and without one all is path. -/
inductive MeansTarget (cs : List Char) : Option String → Option String → Prop
  | templated {front back : List Char} {path template : Option String} : FirstCut ['=', '>'] cs (some (front, back)) →
      Means front path → Means back template → MeansTarget cs path template
  | plain {path : Option String} : FirstCut ['=', '>'] cs none → Means cs path → MeansTarget cs path none

/-- The short form: the first `@` ends the function, and without one there is no function. -/
inductive Grammar (cs : List Char) : Spec → Prop
  | named {front back : List Char} {function path template : Option String} : FirstCut ['@'] cs (some (front, back)) →
      MeansFunction front function → MeansTarget back path template → Grammar cs ⟨function, path, template⟩
  | unnamed {path template : Option String} : FirstCut ['@'] cs none → MeansTarget cs path template →
      Grammar cs ⟨none, path, template⟩

/-! ### The first place of a mark -/

section FirstCut

variable {a : Char} {mark : List Char} {r r' : Option (List Char × List Char)}

/-- A mark whose first character is not in it again does not overlap itself: it stands first where it does not stand
before. -/
theorem FirstCut.of_absent (ha : a ∉ mark) (hcs : cs = front ++ (a :: mark ++ back)) (hfront : ¬ a :: mark <:+: front) :
    FirstCut (a :: mark) cs (some (front, back)) := by
  refine .at hcs fun front' back' hcs' => Nat.not_lt.1 fun hlt => hfront ?_
  rcases List.append_eq_append_iff.1 (hcs.symm.trans hcs') with ⟨more, rfl, -⟩ | ⟨more, rfl, hmore⟩
  · simp only [List.length_append] at hlt
    omega
  cases more with
  | nil => simp at hlt
  | cons b more =>
    rw [List.cons_append, List.cons_append, List.cons.injEq] at hmore
    obtain ⟨rfl, hmore⟩ := hmore
    -- the second of two overlapping marks would begin inside the first
    rcases List.append_eq_append_iff.1 hmore with ⟨rest, rfl, -⟩ | ⟨rest, rfl, hrest⟩
    · exact ⟨front', rest, by simp⟩
    · cases rest with
      | nil => exact ⟨front', [], by simp⟩
      | cons b rest =>
        obtain ⟨rfl, -⟩ := List.cons.inj hrest
        exact absurd (by simp) ha

/-- There is one first place. -/
theorem FirstCut.eq (h : FirstCut mark cs r) (h' : FirstCut mark cs r') : r = r' := by
  rcases h with ⟨hcs, hfirst⟩ | hnowhere
  · rcases h' with ⟨hcs', hfirst'⟩ | hnowhere'
    · have hlength := Nat.le_antisymm (hfirst _ _ hcs') (hfirst' _ _ hcs)
      obtain ⟨rfl, hback⟩ := List.append_inj (hcs.symm.trans hcs') hlength
      rw [List.append_cancel_left hback]
    · exact absurd ⟨_, _, by rw [hcs, List.append_assoc]⟩ hnowhere'
  · rcases h' with ⟨hcs', -⟩ | -
    · exact absurd ⟨_, _, by rw [hcs', List.append_assoc]⟩ hnowhere
    · rfl

end FirstCut

theorem firstCut_marked (h : '@' ∉ front) (rest : Option (List Char)) :
    FirstCut ['@'] (front ++ marked '@' rest) (rest.map (front, ·)) := by
  have habsent : ¬ ['@'] <:+: front := mt (List.singleton_infix_iff '@' front).1 h
  cases rest with
  | none => exact .nowhere (by rwa [marked, List.append_nil])
  | some back => exact .of_absent (by simp) rfl habsent

theorem firstCut_arrowed (h : ¬ ['=', '>'] <:+: front) (template : Option (List Char)) :
    FirstCut ['=', '>'] (front ++ arrowed template) (template.map (front, ·)) := by
  cases template with
  | none => exact .nowhere (by rwa [arrowed, List.append_nil])
  | some back => exact .of_absent (by simp) rfl h

/-! ### Parts -/

/-- What a part stands for is what is left when it is trimmed. -/
theorem means_iff {o : Option String} : Means cs o ↔ part cs = o := by
  constructor
  · rintro (hblank | ⟨hcs, hbefore, hafter, hne, hhead, hlast⟩)
    · have htrim : trim cs = [] := trimBy_eq_iff.2 ⟨cs, [], by simp, hblank, by simp, by simp, by simp⟩
      rw [part, htrim]
      rfl
    · exact part_eq_some_iff.2 (by
        rw [show trim cs = _ from trimBy_eq_iff.2 ⟨_, _, hcs, hbefore, hafter, hhead, hlast⟩]
        exact ⟨hne, rfl⟩)
  · rintro rfl
    obtain ⟨before, after, hcs, hbefore, hafter, hhead, hlast⟩ := trimBy_eq_iff.1 (rfl : trim cs = _)
    by_cases hne : trim cs = []
    · have hpart : part cs = none := by rw [part, hne]; rfl
      rw [hpart]
      refine .blank fun c hc => ?_
      rw [hcs, hne, List.nil_append, List.mem_append] at hc
      exact hc.elim (hbefore c) (hafter c)
    · rw [part_eq_some_iff.2 ⟨hne, rfl⟩]
      exact .text hcs hbefore hafter hne hhead hlast

theorem meansFunction_iff {o : Option String} : MeansFunction cs o ↔ (part cs).filter (· ≠ Spec.noFunction) = o := by
  constructor
  · rintro (h | h | ⟨h, hne⟩)
    · rw [means_iff.1 h]
      rfl
    · rw [means_iff.1 h]
      rfl
    · have hkept : decide (_ ≠ Spec.noFunction) = true := decide_eq_true hne
      rw [means_iff.1 h, Option.filter_some, if_pos hkept]
  · rintro rfl
    have hmeans : Means cs (part cs) := means_iff.2 rfl
    cases hpart : part cs with
    | none => exact .blank (hpart ▸ hmeans)
    | some f =>
      rw [hpart] at hmeans
      by_cases hf : f = Spec.noFunction
      · subst hf
        exact .placeholder hmeans
      · rw [Option.filter_some, if_pos (decide_eq_true hf)]
        exact .function hmeans hf

/-! ### Texts -/

theorem meansTarget_iff (h : ¬ ['=', '>'] <:+: front) {template : Option (List Char)} {p t : Option String} :
    MeansTarget (front ++ arrowed template) p t ↔ part front = p ∧ template.bind part = t := by
  have hcut := firstCut_arrowed h template
  constructor
  · rintro (⟨hcut', hpath, htemplate⟩ | ⟨hcut', hpath⟩)
    · obtain ⟨back, rfl, hback⟩ := Option.map_eq_some_iff.1 (hcut.eq hcut')
      obtain ⟨rfl, rfl⟩ := Prod.mk.inj hback
      exact ⟨means_iff.1 hpath, means_iff.1 htemplate⟩
    · obtain rfl := Option.map_eq_none_iff.1 (hcut.eq hcut')
      rw [arrowed, List.append_nil] at hpath
      exact ⟨means_iff.1 hpath, rfl⟩
  · rintro ⟨rfl, rfl⟩
    cases template with
    | none => exact .plain hcut (means_iff.2 (by rw [arrowed, List.append_nil]))
    | some back => exact .templated hcut (means_iff.2 rfl) (means_iff.2 rfl)

/-- By the grammar a text means what its parts mean. -/
theorem grammar_source_iff (p : Parts) {s : Spec} : Grammar p.source s ↔ p.spec = s := by
  obtain ⟨function, path, template, hfunction, hpath, hunnamed⟩ := p
  cases function with
  | none =>
    have hcut := firstCut_marked (hunnamed rfl) none
    rw [marked, List.append_nil] at hcut
    constructor
    · rintro (⟨hcut', -, -⟩ | ⟨-, htarget⟩)
      · cases hcut.eq hcut'
      · obtain ⟨rfl, rfl⟩ := (meansTarget_iff hpath).1 htarget
        rfl
    · rintro rfl
      exact .unnamed hcut ((meansTarget_iff hpath).2 ⟨rfl, rfl⟩)
  | some f =>
    have hcut := firstCut_marked (hfunction f rfl) (some (path ++ arrowed template))
    constructor
    · rintro (⟨hcut', hnamed, htarget⟩ | ⟨hcut', -⟩)
      · obtain ⟨rfl, rfl⟩ := Prod.mk.inj (Option.some.inj (hcut.eq hcut'))
        obtain ⟨rfl, rfl⟩ := (meansTarget_iff hpath).1 htarget
        obtain rfl := meansFunction_iff.1 hnamed
        rfl
      · cases hcut.eq hcut'
    · rintro rfl
      exact .named hcut (meansFunction_iff.2 rfl) ((meansTarget_iff hpath).2 ⟨rfl, rfl⟩)

/-- **A text is read as the grammar says, and only so. The scan of its bytes cuts it between characters, and its tokens
spell it.** -/
theorem Spec.ofText_iff_grammar (text : String) :
    (∀ s, Spec.ofText text = s ↔ Grammar text.toList s) ∧
      (∀ start stop, .text start stop ∈ Span.scan 0 0 (bytes text) →
        ∃ front middle back, text.toList = front ++ (middle ++ back) ∧ (utf8 front).length = start ∧
          (utf8 (front ++ middle)).length = stop) ∧
      ∃ tokens, Token.ofText? text.toList = some tokens ∧ tokens.flatMap Token.source = text.toList := by
  refine ⟨fun s => ?_, fun start stop => Span.ends_of_mem_scan, Token.scan text.toList, Token.ofText?_eq _,
    Token.flatMap_source_scan _⟩
  obtain ⟨p, hp⟩ := exists_parts text.toList
  rw [← hp, grammar_source_iff, ← Spec.ofText_parts, hp, String.ofList_toList]

/-- Of `==>` the first character is text: it ends the span of a path, behind a character of two bytes. -/
theorem Spec.ofText_iff_grammar_of_overlap :
    Grammar "f@é==>b@c".toList ⟨some "f", some "é=", some "b@c"⟩ ∧
      ∃ front middle back, "f@é==>b@c".toList = front ++ (middle ++ back) ∧ (utf8 front).length = 2 ∧
        (utf8 (front ++ middle)).length = 5 :=
  have h := Spec.ofText_iff_grammar "f@é==>b@c"
  ⟨(h.1 _).1 (by decide +kernel), h.2.1 2 5 (by decide +kernel)⟩

end EdgeWorker.Route
