import EdgeWorker.Proofs.Route.Scan

/-!
The short form of a route, read and written.

* `Parts` — a text cut at its first marks; every text is (`exists_parts`), and its spec is read off the parts
  (`Spec.ofText_parts`);
* `Spec.normalize_normalize` — a normalized spec stays as it is;
* `Spec.Writable` — no part of a spec holds the mark that would end it too early: so it is with every spec that was read
  (`Spec.writable_ofText`), and what is writable is read back (`Spec.ofText_text_of_writable`).
-/

namespace EdgeWorker.Route

open EdgeWorker.Text

variable {cs : List Char}

/-! ### Parts -/

/-- A text is cut at its first mark of a template. -/
theorem exists_arrowed (cs : List Char) : ∃ front template, cs = front ++ arrowed template ∧ ¬ ['=', '>'] <:+: front := by
  induction cs with
  | nil => exact ⟨[], none, rfl, by decide⟩
  | cons c cs ih =>
    by_cases h : ['=', '>'] <+: c :: cs
    · obtain ⟨back, hback⟩ := h
      exact ⟨[], some back, hback.symm, by decide⟩
    · obtain ⟨front, template, rfl, hfront⟩ := ih
      refine ⟨c :: front, template, rfl, fun hinfix => ?_⟩
      rcases List.infix_cons_iff.1 hinfix with hhead | hinfix
      · exact h (hhead.trans (List.prefix_append _ _))
      · exact hfront hinfix

/-- A text cut at its first marks: what stands before the first `@`, what stands from there to the next `=>`, and what
stands behind that. -/
structure Parts where
  function : Option (List Char)
  path : List Char
  template : Option (List Char)
  function_plain : ∀ f ∈ function, '@' ∉ f
  path_plain : ¬ ['=', '>'] <:+: path
  unnamed : function = none → '@' ∉ path ++ arrowed template

namespace Parts

/-- What stands behind the function. -/
def rest (p : Parts) : List Char := p.path ++ arrowed p.template

def source (p : Parts) : List Char :=
  match p.function with
  | some f => f ++ '@' :: p.rest
  | none => p.rest

def spec (p : Parts) : Spec := ⟨(p.function.bind part).filter (· ≠ Spec.noFunction), part p.path, p.template.bind part⟩

end Parts

/-- Every text is cut in this way. -/
theorem exists_parts (cs : List Char) : ∃ p : Parts, p.source = cs := by
  obtain ⟨front, rest, rfl, hfront⟩ := exists_marked '@' cs
  cases rest with
  | none =>
    obtain ⟨path, template, rfl, hpath⟩ := exists_arrowed front
    exact ⟨⟨none, path, template, nofun, hpath, fun _ => hfront⟩, (List.append_nil _).symm⟩
  | some rest =>
    obtain ⟨path, template, rfl, hpath⟩ := exists_arrowed rest
    exact ⟨⟨some front, path, template, fun f hf => Option.some.inj hf ▸ hfront, hpath, nofun⟩, rfl⟩

/-! ### Normal form -/

theorem part_eq_some_iff {s : String} : part cs = some s ↔ trim cs ≠ [] ∧ s = String.ofList (trim cs) := by
  unfold part nonempty
  cases trim cs <;> simp [eq_comm]

/-- A part is not trimmed twice. -/
theorem part_toList {s : String} (h : part cs = some s) : part s.toList = some s := by
  obtain ⟨hne, rfl⟩ := part_eq_some_iff.1 h
  have htrim : trim (trim cs) = trim cs := trimBy_trimBy isBlank cs
  rw [String.toList_ofList, part_eq_some_iff, htrim]
  exact ⟨hne, rfl⟩

theorem part_bind_part (cs : List Char) : ((part cs).bind fun s => part s.toList) = part cs := by
  cases h : part cs with
  | none => rfl
  | some s => exact part_toList h

namespace Spec

theorem normalize_eq_self_iff {s : Spec} : s.normalize = s ↔
    (∀ f ∈ s.rpcFunction, part f.toList = some f ∧ f ≠ noFunction) ∧ (∀ p ∈ s.rpcPath, part p.toList = some p) ∧
      ∀ t ∈ s.template, part t.toList = some t := by
  obtain ⟨function, path, template⟩ := s
  simp only [normalize, Spec.mk.injEq]
  refine and_congr ?_ (and_congr ?_ ?_)
  · cases function <;> simp [Option.filter_eq_some_iff]
  · cases path <;> simp
  · cases template <;> simp

/-- A normalized spec stays as it is. -/
theorem normalize_normalize (s : Spec) : s.normalize.normalize = s.normalize := by
  have hpart {o : Option String} {x : String} (h : (o.bind fun y => part y.toList) = some x) : part x.toList = some x := by
    obtain ⟨y, -, hy⟩ := Option.bind_eq_some_iff.1 h
    exact part_toList hy
  refine normalize_eq_self_iff.2 ⟨fun f hf => ?_, fun p hp => hpart hp, fun t ht => hpart ht⟩
  obtain ⟨hbind, hne⟩ := Option.filter_eq_some_iff.1 hf
  exact ⟨hpart hbind, of_decide_eq_true hne⟩

/-! ### Reading -/

theorem ofTokens_scan (p : Parts) :
    ofTokens (Token.scan p.source) = ⟨p.function.bind part, part p.path, p.template.bind part⟩ := by
  obtain ⟨function, path, template, hfunction, hpath, hunnamed⟩ := p
  have hrest := Token.cutAt_templateMark hpath template
  unfold ofTokens Parts.source Parts.rest
  cases function with
  | none =>
    have hcut := Token.cutAt_functionMark (hunnamed rfl) none
    rw [marked, List.append_nil] at hcut
    rw [hcut]
    dsimp only [Option.map_none]
    rw [hrest]
    cases template <;> simp [Token.partOf_scan, arrowed]
  | some f =>
    have hcut := Token.cutAt_functionMark (hfunction f rfl) (some (path ++ arrowed template))
    rw [marked] at hcut
    dsimp only
    rw [hcut]
    dsimp only [Option.map_some]
    rw [hrest]
    cases template <;> simp [Token.partOf_scan, arrowed]

/-- A text is read from its parts. -/
theorem ofText_parts (p : Parts) : ofText (String.ofList p.source) = p.spec := by
  have hbind (o : Option (List Char)) : ((o.bind part).bind fun s => part s.toList) = o.bind part := by
    cases o with
    | none => rfl
    | some cs => exact part_bind_part cs
  rw [ofText, String.toList_ofList, Token.ofText?_eq, Option.getD_some, ofTokens_scan]
  simp only [normalize, hbind, part_bind_part, Parts.spec]

theorem normalize_ofText (text : String) : (ofText text).normalize = ofText text := normalize_normalize _

/-! ### Writing -/

/-- No part of the spec holds the mark that ends it in the short form. -/
structure Writable (s : Spec) : Prop where
  function : ∀ f ∈ s.rpcFunction, '@' ∉ f.toList
  path : ∀ p ∈ s.rpcPath, ¬ ['=', '>'] <:+: p.toList

/-- What is read can be written. -/
theorem writable_ofText (text : String) : (ofText text).Writable := by
  obtain ⟨p, hp⟩ := exists_parts text.toList
  rw [← String.ofList_toList (s := text), ← hp, ofText_parts]
  constructor
  · intro f hf
    obtain ⟨front, hfront, hpart⟩ := Option.bind_eq_some_iff.1 (Option.filter_eq_some_iff.1 hf).1
    rw [(part_eq_some_iff.1 hpart).2, String.toList_ofList]
    exact fun h => p.function_plain front hfront ((trimBy_isInfix _ _).subset h)
  · intro path hpath
    rw [(part_eq_some_iff.1 hpath).2, String.toList_ofList]
    exact fun h => p.path_plain (h.trans (trimBy_isInfix _ _))

theorem toList_text (s : Spec) : s.text.toList =
    (s.rpcFunction.getD noFunction).toList ++ '@' :: ((s.rpcPath.getD "").toList ++ arrowed (s.template.map String.toList)) := by
  unfold text
  cases s.template <;> simp [String.toList_append, arrowed]

/-- A normalized spec that can be written is read back. -/
theorem ofText_text_of_writable {s : Spec} (hs : s.normalize = s) (h : s.Writable) : ofText s.text = s := by
  obtain ⟨hfunction, hpath, htemplate⟩ := normalize_eq_self_iff.1 hs
  let p : Parts :=
    { function := some (s.rpcFunction.getD noFunction).toList
      path := (s.rpcPath.getD "").toList
      template := s.template.map String.toList
      function_plain := by
        rintro _ ⟨⟩
        cases hf : s.rpcFunction with
        | none => decide
        | some f => exact h.function f hf
      path_plain := by
        cases hp : s.rpcPath with
        | none => decide
        | some path => exact h.path path hp
      unnamed := nofun }
  have hsource : p.source = s.text.toList := (toList_text s).symm
  rw [← String.ofList_toList (s := s.text), ← hsource, ofText_parts]
  obtain ⟨function, path, template⟩ := s
  simp only [Parts.spec, p, Spec.mk.injEq]
  refine ⟨?_, ?_, ?_⟩
  · cases function with
    | none => decide +kernel
    | some f => simp [Option.filter_eq_some_iff, hfunction f rfl]
  · cases path with
    | none => decide +kernel
    | some path => exact hpath path rfl
  · cases template with
    | none => rfl
    | some template => exact htemplate template rfl

/-- A normalized spec is read back from its short form just if neither its function nor its path holds the mark that ends
it. Whatever is read is such a spec. -/
theorem ofText_text : (∀ s : Spec, s.normalize = s → (ofText s.text = s ↔ s.Writable)) ∧
    ∀ text, (ofText text).normalize = ofText text ∧ (ofText text).Writable ∧ ofText (ofText text).text = ofText text := by
  refine ⟨fun s hs => ⟨fun h => ?_, fun h => ofText_text_of_writable hs h⟩, fun text => ?_⟩
  · rw [← h]
    exact writable_ofText s.text
  · have h := writable_ofText text
    exact ⟨normalize_ofText text, h, ofText_text_of_writable (normalize_ofText text) h⟩

/-- Marks that end no part are text: `=>` in a function, a path that ends in `=`, and both in a template. -/
theorem ofText_text_of_marks : ofText "x=>y@p==>a@b=>c" = ⟨some "x=>y", some "p=", some "a@b=>c"⟩ ∧
    ofText (Spec.text ⟨some "f", some "p=>q", none⟩) ≠ ⟨some "f", some "p=>q", none⟩ := by
  refine ⟨(ofText_text.1 ⟨some "x=>y", some "p=", some "a@b=>c"⟩ (by decide +kernel)).2 ⟨?_, ?_⟩, fun h => ?_⟩
  · rintro _ ⟨⟩
    decide +kernel
  · rintro _ ⟨⟩
    decide +kernel
  · exact ((ofText_text.1 ⟨some "f", some "p=>q", none⟩ (by decide +kernel)).1 h).path "p=>q" rfl ⟨['p'], ['q'], rfl⟩

end Spec
end EdgeWorker.Route
