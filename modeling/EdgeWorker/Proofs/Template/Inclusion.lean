import EdgeWorker.Template.Render

/-!
What rendering takes from the registry.

* `Asks t n` — an inclusion somewhere in a template may ask for a name: the name that its tag has, or any name if the
  name is computed. `Asked registry t n` — the same of the template and all that it may come to include;
* `Alike F S R m m'` — two renderings do the same in every scene whose templates ask for names in `S` only, unless the
  first one ends in a fault in `F`;
* `render_congr` — two registries that have the same under every name that is asked for give the same page, or the
  same fault. Names that are not asked for do not count;
* `writeTo_add` — what does not nest too deep is written the same where it may nest deeper.
-/

namespace EdgeWorker.Template

open EdgeWorker.Json Rendering

/-! ### The names that are asked for -/

/-- What the head of a tag may be as a name. -/
def Head.MayBe : Head → String → Prop
  | .named n, name => n.text = name
  | .computed _, _ => True

theorem mayBe_of_name {v : View} {head : Head} {name : String} (h : head.name v = .ok name) : head.MayBe name := by
  cases head with
  | named n => cases h; exact rfl
  | computed t => trivial

/-- An inclusion in an element may ask for a name. -/
inductive Element.Asks : Element → String → Prop
  | tag {c : Call} {indent : List Char} {block : Option Template} {n : String} : c.head.MayBe n →
      Asks (.include c indent block) n
  | given {c : Call} {indent : List Char} {t : Template} {e : Element} {n : String} : e ∈ t → e.Asks n →
      Asks (.include c indent (some t)) n
  | main {c : Call} {names : List String} {t : Template} {other : Option Template} {e : Element} {n : String} :
      e ∈ t → e.Asks n → Asks (.block c names t other) n
  | other {c : Call} {names : List String} {main t : Template} {e : Element} {n : String} : e ∈ t → e.Asks n →
      Asks (.block c names main (some t)) n
  | decorated {c : Call} {t : Template} {e : Element} {n : String} : e ∈ t → e.Asks n →
      Asks (.decorator c (some t)) n

/-- An inclusion in a template may ask for a name. -/
def Asks (t : Template) (n : String) : Prop := ∃ e ∈ t, e.Asks n

/-- A template, or one that it may come to include, may ask for a name. -/
inductive Asked (registry : String → Option Template) (t : Template) : String → Prop
  | directly {n : String} : Asks t n → Asked registry t n
  | within {m n : String} {t' : Template} : Asked registry t m → registry m = some t' → Asks t' n →
      Asked registry t n

/-- A template asks for names with `S` only. -/
def Confined (S : String → Prop) (t : Template) : Prop := ∀ n, Asks t n → S n

/-- The templates in a scene ask for names with `S` only. -/
structure Scene.Confined (S : String → Prop) (scene : Scene) : Prop where
  defined : ∀ p ∈ scene.defined, Template.Confined S p.2
  given : ∀ t ∈ scene.given, Template.Confined S t

/-! ### Renderings that do the same -/

/-- In every scene whose templates ask for names with `S` only, the first of two renderings ends in a fault with `F`, or
they do the same, leave such a scene, and have results with `R`. -/
def Alike {α : Type} (F : Fault → Prop) (S : String → Prop) (R : α → Prop) (m m' : Rendering α) : Prop :=
  ∀ scene : Scene, scene.Confined S → (∃ x, F x ∧ m.run scene = .error x) ∨
    (m.run scene = m'.run scene ∧ ∀ a after, m.run scene = .ok (a, after) → R a ∧ after.Confined S)

section Alike

variable {α β : Type} {F : Fault → Prop} {S : String → Prop} {R : α → Prop} {m m' : Rendering α} {data : Value}
  {r r' : String → Option Template}

theorem alike_pure {a : α} (h : R a) : Alike F S R (pure a) (pure a) := by
  intro scene hs
  refine .inr ⟨rfl, fun b after hb => ?_⟩
  cases hb
  exact ⟨h, hs⟩

theorem Alike.bind {Q : β → Prop} {f f' : α → Rendering β} (h : Alike F S R m m')
    (hf : ∀ a, R a → Alike F S Q (f a) (f' a)) : Alike F S Q (m >>= f) (m' >>= f') := by
  intro scene hs
  rcases h scene hs with ⟨x, hx, hm⟩ | ⟨heq, hkeep⟩
  · exact .inl ⟨x, hx, by rw [StateT.run_bind, hm]; rfl⟩
  · simp only [StateT.run_bind, ← heq]
    cases hm : m.run scene with
    | error x => exact .inr ⟨rfl, fun _ _ h => by cases h⟩
    | ok p =>
      obtain ⟨ha, hs'⟩ := hkeep p.1 p.2 hm
      exact hf p.1 ha p.2 hs'

theorem alike_get : Alike F S (Scene.Confined S) get get := by
  intro scene hs
  refine .inr ⟨rfl, fun a after ha => ?_⟩
  cases ha
  exact ⟨hs, hs⟩

theorem alike_modify {f : Scene → Scene} (h : ∀ scene, scene.Confined S → (f scene).Confined S) :
    Alike F S (fun _ => True) (modify f) (modify f) := by
  intro scene hs
  refine .inr ⟨rfl, fun a after ha => ?_⟩
  cases ha
  exact ⟨trivial, h scene hs⟩

/-- An outcome that does not depend on the scene. -/
theorem alike_lift {outcome : Except Fault α} (h : ∀ a, outcome = .ok a → R a) :
    Alike F S R (liftM outcome) (liftM outcome) := by
  intro scene hs
  refine .inr ⟨rfl, fun a after ha => ?_⟩
  cases outcome with
  | error x => cases ha
  | ok b => cases ha; exact ⟨h _ rfl, hs⟩

theorem alike_throw {x : Fault} : Alike F S R (throw x) (throw x) := by
  intro scene hs
  exact .inr ⟨rfl, fun a after ha => by cases ha⟩

theorem alike_forM {ι : Type} {l : List ι} {f f' : ι → Rendering Unit}
    (h : ∀ a ∈ l, Alike F S (fun _ => True) (f a) (f' a)) : Alike F S (fun _ => True) (l.forM f) (l.forM f') := by
  induction l with
  | nil => exact alike_pure trivial
  | cons a l ih => exact (h a List.mem_cons_self).bind fun _ _ => ih fun b hb => h b (.tail _ hb)

theorem alike_forIn {ι : Type} {l : List ι} {f f' : ι → Rendering Unit}
    (h : ∀ a ∈ l, Alike F S (fun _ => True) (f a) (f' a)) :
    Alike F S (fun _ => True) (forIn l PUnit.unit fun a _ => do f a; return .yield PUnit.unit)
      (forIn l PUnit.unit fun a _ => do f' a; return .yield PUnit.unit) := by
  induction l with
  | nil => exact alike_pure trivial
  | cons a l ih =>
    simp only [List.forIn_cons, bind_assoc, pure_bind]
    exact (h a List.mem_cons_self).bind fun _ _ => ih fun b hb => h b (.tail _ hb)

/-- What is asked about the data and the levels. -/
theorem alike_ask {f : View → Except Fault α} (h : ∀ v a, f v = .ok a → R a) :
    Alike F S R (ask ⟨data, r⟩ f) (ask ⟨data, r'⟩ f) := by
  refine Alike.bind (R := fun _ => True) ?_ fun v _ => alike_lift fun a ha => h v a ha
  exact alike_get.bind fun scene _ => alike_pure trivial

theorem alike_asked {f : View → Except Fault α} :
    Alike F S (fun _ => True) (ask ⟨data, r⟩ f) (ask ⟨data, r'⟩ f) := alike_ask fun _ _ _ => trivial

theorem alike_put (cs : List Char) : Alike F S (fun _ => True) (put cs) (put cs) :=
  alike_modify fun _ hs => ⟨hs.defined, hs.given⟩

theorem alike_write (cs : List Char) : Alike F S (fun _ => True) (Rendering.write cs) (Rendering.write cs) :=
  alike_get.bind fun _ _ => alike_put _

theorem alike_within {level : Level} {m m' : Rendering Unit} (h : Alike F S (fun _ => True) m m') :
    Alike F S (fun _ => True) (within level m) (within level m') := by
  refine (alike_modify (f := fun scene => { scene with levels := level :: scene.levels })
    fun _ hs => ⟨hs.defined, hs.given⟩).bind fun _ _ => h.bind fun _ _ => ?_
  exact alike_modify (f := fun scene => { scene with levels := scene.levels.tail }) fun _ hs => ⟨hs.defined, hs.given⟩

/-- What is written in another scene leaves the templates of this one. -/
theorem alike_aside {change : Scene → Scene} {m m' : Rendering Unit} (h : Alike F S (fun _ => True) m m')
    (hc : ∀ scene, scene.Confined S → (change scene).Confined S) :
    Alike F S (fun _ => True) (aside change m) (aside change m') := by
  refine alike_get.bind fun scene hs => ?_
  refine (alike_modify (f := fun _ => change scene) fun _ _ => hc scene hs).bind fun _ _ => h.bind fun _ _ => ?_
  refine alike_get.bind fun after _ => ?_
  exact alike_modify (f := fun _ => { scene with page := after.page }) fun _ _ => ⟨hs.defined, hs.given⟩

end Alike

/-! ### Elements -/

section Elements

variable {F : Fault → Prop} {S : String → Prop} {data : Value} {r r' : String → Option Template} {body body' : Body}

/-- Two ways to render bodies do the same for templates that ask for names with `S` only, unless the first one ends in a
fault with `F`. -/
def BodiesAlike (F : Fault → Prop) (S : String → Prop) (body body' : Body) : Prop :=
  ∀ title t, Confined S t → Alike F S (fun _ => True) (body title t) (body' title t)

theorem BodiesAlike.optional (h : BodiesAlike F S body body') {t : Option Template} (ht : ∀ u ∈ t, Confined S u) :
    Alike F S (fun _ => True) (Template.optional body t) (Template.optional body' t) := by
  cases t with
  | none => exact alike_pure trivial
  | some t => exact h none t (ht t rfl)

theorem BodiesAlike.writeEach (h : BodiesAlike F S body body') (f : Found) (names : List String) {t : Template}
    (ht : Confined S t) :
    Alike F S (fun _ => True) (Template.writeEach body f names t) (Template.writeEach body' f names t) := by
  unfold Template.writeEach
  exact (alike_forIn fun _ _ => alike_within (h none t ht)).bind fun _ _ => alike_pure trivial

theorem BodiesAlike.write (h : BodiesAlike F S body body') (name : String) (args : List Found)
    (options : List (String × Found)) (names : List String) (escaped : Bool) {main other : Option Template}
    (hm : ∀ t ∈ main, Confined S t) (ho : ∀ t ∈ other, Confined S t) (helper : Helper) :
    Alike F S (fun _ => True) (helper.write body name args options names escaped main other)
      (helper.write body' name args options names escaped main other) := by
  unfold Helper.write
  cases helper.value? name args with
  | some made => exact (alike_lift fun _ _ => trivial).bind fun _ _ => alike_put _
  | none =>
    refine (alike_lift (R := fun _ => True) fun _ _ => trivial).bind fun _ _ => ?_
    dsimp only
    cases helper with
    | test positive =>
      refine h.optional ?_
      split
      · exact hm
      · exact ho
    | each =>
      cases main with
      | none => exact alike_pure trivial
      | some t =>
        dsimp only
        split
        · exact h.optional ho
        · exact h.writeEach _ names (hm t rfl)
    | enter =>
      dsimp only
      split
      · exact alike_within (h.optional hm)
      · exact h.optional ho
    | verbatim => exact h.optional hm
    | _ => exact alike_pure trivial

theorem BodiesAlike.writeCall (h : BodiesAlike F S body body') (c : Call) (names : List String) (escaped : Bool)
    {main other : Option Template} (hm : ∀ t ∈ main, Confined S t) (ho : ∀ t ∈ other, Confined S t) :
    Alike F S (fun _ => True) (Template.writeCall ⟨data, r⟩ body c names escaped main other)
      (Template.writeCall ⟨data, r'⟩ body' c names escaped main other) := by
  refine alike_asked.bind fun name _ => alike_asked.bind fun args _ => alike_asked.bind fun options _ => ?_
  cases Helper.ofName? name with
  | none => exact alike_throw
  | some helper => exact h.write name args options names escaped hm ho helper

theorem BodiesAlike.writeValue (h : BodiesAlike F S body body') (c : Call) (escaped : Bool) :
    Alike F S (fun _ => True) (Template.writeValue ⟨data, r⟩ body c escaped)
      (Template.writeValue ⟨data, r'⟩ body' c escaped) := by
  refine alike_asked.bind fun name _ => ?_
  split
  · refine alike_asked.bind fun found _ => ?_
    split
    · exact alike_write _
    · exact alike_pure trivial
  · exact h.writeCall c [] escaped nofun nofun

/-- A decorator brings nothing but the body that it has. -/
theorem alike_decorate (c : Call) {t : Option Template} (ht : ∀ u ∈ t, Confined S u) :
    Alike F S (fun _ => True) (decorate ⟨data, r⟩ c t) (decorate ⟨data, r'⟩ c t) := by
  refine alike_asked.bind fun name _ => alike_asked.bind fun args _ => alike_asked.bind fun _ _ => ?_
  dsimp only
  split
  · exact (alike_throw (R := fun _ => False)).bind fun _ h => h.elim
  · split
    · split
      · refine alike_modify fun scene hs => ⟨fun p hp => ?_, hs.given⟩
        rcases List.mem_cons.1 hp with rfl | hp
        · exact ht _ rfl
        · exact hs.defined p hp
      · exact alike_throw
    · exact alike_throw

theorem alike_decorateAll {t : Template} (ht : Confined S t) :
    Alike F S (fun _ => True) (decorateAll ⟨data, r⟩ t) (decorateAll ⟨data, r'⟩ t) := by
  refine alike_forM fun e he => ?_
  cases e with
  | decorator c body =>
    refine alike_decorate c fun u hu n hn => ?_
    obtain ⟨e, heu, hen⟩ := hn
    cases hu
    exact ht n ⟨_, he, .decorated heu hen⟩
  | _ => exact alike_pure trivial

/-- What is included asks for names with `S` only, if that holds of what the registry has under such names. -/
theorem confined_of_included (hc : ∀ n, S n → ∀ t, r n = some t → Confined S t) {scene : Scene}
    (hs : scene.Confined S) {name : String} (hn : S name) {block : Option Template} (hb : ∀ t ∈ block, Confined S t)
    {title : Option String} {t : Template} (h : included ⟨data, r⟩ scene name block = some (title, t)) :
    Confined S t := by
  have hlocal : ∀ u, (if name = givenName then scene.given[scene.depth]? else scene.defined.lookup name) = some u →
      Confined S u := by
    intro u hu
    split at hu
    · exact hs.given u (List.mem_of_getElem? hu)
    · obtain ⟨before, after, heq, -⟩ := List.lookup_eq_some_iff.1 hu
      exact hs.defined (name, u) (by simp [heq])
  unfold included at h
  dsimp only at h
  cases hl : (if name = givenName then scene.given[scene.depth]? else scene.defined.lookup name) with
  | some u =>
    rw [hl] at h
    cases h
    exact hlocal _ hl
  | none =>
    rw [hl] at h
    cases hreg : r name with
    | some u =>
      rw [hreg] at h
      cases h
      exact hc name hn _ hreg
    | none =>
      rw [hreg] at h
      cases block with
      | none => cases h
      | some u =>
        cases h
        exact hb _ rfl

/-- An inclusion is carried out alike where the registries have the same under the names that its tag may have. -/
theorem BodiesAlike.writeIncluded (data : Value) (h : BodiesAlike F S body body') (hr : ∀ n, S n → r n = r' n)
    (hc : ∀ n, S n → ∀ t, r n = some t → Confined S t) {name : String} (hn : S name) (args : List Found)
    (options : List (String × Found)) (indent : List Char) {block : Option Template}
    (hb : ∀ t ∈ block, Confined S t) :
    Alike F S (fun _ => True) (Template.writeIncluded ⟨data, r⟩ body name args options indent block)
      (Template.writeIncluded ⟨data, r'⟩ body' name args options indent block) := by
  refine alike_get.bind fun scene hs => ?_
  have hsame : included ⟨data, r'⟩ scene name block = included ⟨data, r⟩ scene name block := by
    simp only [included, hr name hn]
  simp only [hsame]
  split
  · exact (alike_throw (R := fun _ => False)).bind fun _ h => h.elim
  · cases hi : included ⟨data, r⟩ scene name block with
    | none => exact alike_pure trivial
    | some found =>
      obtain ⟨title, t⟩ := found
      have ht : Confined S t := confined_of_included hc hs hn hb hi
      refine (alike_lift (R := fun _ => True) fun _ _ => trivial).bind fun levels _ => ?_
      refine alike_aside (h title t ht) fun scene hs => ⟨hs.defined, fun u hu => ?_⟩
      rcases List.mem_append.1 hu with hu | hu
      · exact hb u (Option.mem_toList.1 hu)
      · exact hs.given u hu

theorem BodiesAlike.writeInclusion (h : BodiesAlike F S body body') (hr : ∀ n, S n → r n = r' n)
    (hc : ∀ n, S n → ∀ t, r n = some t → Confined S t) (c : Call) (hn : ∀ n, c.head.MayBe n → S n)
    (indent : List Char) {block : Option Template} (hb : ∀ t ∈ block, Confined S t) :
    Alike F S (fun _ => True) (Template.writeInclusion ⟨data, r⟩ body c indent block)
      (Template.writeInclusion ⟨data, r'⟩ body' c indent block) := by
  refine Alike.bind (R := S) (alike_ask fun v a ha => hn a (mayBe_of_name ha)) fun name hname =>
    alike_asked.bind fun args _ => alike_asked.bind fun options _ => ?_
  have hrest := h.writeIncluded data hr hc hname args options indent hb
  cases block with
  | none => exact hrest
  | some t => exact (alike_decorateAll (hb t rfl)).bind fun _ _ => hrest

/-- Every element is written alike. -/
theorem BodiesAlike.writeElement (h : BodiesAlike F S body body') (hr : ∀ n, S n → r n = r' n)
    (hc : ∀ n, S n → ∀ t, r n = some t → Confined S t) {e : Element} (he : ∀ n, e.Asks n → S n) :
    Alike F S (fun _ => True) (e.write ⟨data, r⟩ body) (e.write ⟨data, r'⟩ body') := by
  match e, he with
  | .text cs, _ => exact alike_write cs
  | .value c escaped, _ => exact h.writeValue c escaped
  | .block c names main other, he =>
    refine h.writeCall c names true (fun t ht n hn => ?_) fun t ht n hn => ?_
    · obtain ⟨e, het, hen⟩ := hn
      cases ht
      exact he n (.main het hen)
    · obtain ⟨e, het, hen⟩ := hn
      cases ht
      exact he n (.other het hen)
  | .decorator c t, he =>
    refine alike_decorate c fun u hu n hn => ?_
    obtain ⟨e, heu, hen⟩ := hn
    cases hu
    exact he n (.decorated heu hen)
  | .include c indent block, he =>
    refine h.writeInclusion hr hc c (fun n hn => he n (.tag hn)) indent fun t ht n hn => ?_
    obtain ⟨e, het, hen⟩ := hn
    cases ht
    exact he n (.given het hen)

end Elements

/-! ### Templates -/

variable {r r' : String → Option Template} {t : Template}

/-- To any depth, templates that ask for names with `S` only are written alike. -/
theorem bodiesAlike_writeTo (data : Value) {F : Fault → Prop} {S : String → Prop} (hr : ∀ n, S n → r n = r' n)
    (hc : ∀ n, S n → ∀ t, r n = some t → Confined S t) (depth : Nat) :
    BodiesAlike F S (writeTo ⟨data, r⟩ depth) (writeTo ⟨data, r'⟩ depth) := by
  induction depth with
  | zero => exact fun _ _ _ => alike_throw
  | succ depth ih =>
    intro title t ht
    refine (alike_modify (f := fun scene => { scene with current := title }) fun _ hs =>
      ⟨hs.defined, hs.given⟩).bind fun _ _ => alike_forM fun e he => ?_
    exact ih.writeElement hr hc fun n hn => ht n ⟨e, he, hn⟩

/-- **Only what is asked for counts.** Registries that have the same under every name that a template may come to ask
for give it the same page, or the same fault. -/
theorem render_congr (h : ∀ n, Asked r t n → r n = r' n) (data : Value) (name : String) :
    Template.render ⟨data, r⟩ name t = Template.render ⟨data, r'⟩ name t := by
  have hc : ∀ n, Asked r t n → ∀ u, r n = some u → Confined (Asked r t) u :=
    fun n hn u hu m hm => .within hn hu hm
  have hstart : Scene.start.Confined (Asked r t) := ⟨nofun, nofun⟩
  have hsame := bodiesAlike_writeTo (F := fun _ => False) data h hc maxNesting (some name) t (fun _ hn => .directly hn)
    .start hstart
  rcases hsame with ⟨x, hx, -⟩ | ⟨hsame, -⟩
  · exact hx.elim
  · unfold Template.render
    rw [hsame]

/-! ### Depths -/

/-- Where there is more depth, nothing is written in another way, unless there was too little. -/
theorem bodiesAlike_writeTo_add (s : Setting) (depth more : Nat) :
    BodiesAlike (· = .tooDeep) (fun _ => True) (writeTo s depth) (writeTo s (depth + more)) := by
  induction depth with
  | zero => exact fun _ _ _ _ _ => .inl ⟨_, rfl, rfl⟩
  | succ depth ih =>
    intro title t _
    rw [Nat.add_right_comm]
    refine (alike_modify (f := fun scene => { scene with current := title }) fun _ hs =>
      ⟨hs.defined, hs.given⟩).bind fun _ _ => alike_forM fun e _ => ?_
    exact ih.writeElement (fun _ _ => rfl) (fun _ _ _ _ _ _ => trivial) fun _ _ => trivial

/-- What does not nest too deep is written the same to any greater depth. -/
theorem writeTo_add {s : Setting} {depth : Nat} {title : Option String} {scene : Scene}
    (h : (writeTo s depth title t).run scene ≠ .error .tooDeep) (more : Nat) :
    (writeTo s (depth + more) title t).run scene = (writeTo s depth title t).run scene := by
  have hscene : scene.Confined fun _ => True := ⟨fun _ _ _ _ => trivial, fun _ _ _ _ => trivial⟩
  rcases bodiesAlike_writeTo_add s depth more title t (fun _ _ => trivial) scene hscene with ⟨x, rfl, hx⟩ | ⟨heq, -⟩
  · exact absurd hx h
  · exact heq.symm

end EdgeWorker.Template
