import EdgeWorker.Proofs.Template.Inclusion
import EdgeWorker.Proofs.Template.Served

/-!
Pages that nest without end.

Only the references that are scanned are looked at for cycles. Where templates begin with inclusions of one another
(`Circle`) in tags that are not scanned, each of them is rendered within the one before. Whatever the depth that rendering
is given, it is used up (`writeTo_tooDeep`), so that there is no page (`page_tooDeep`). And only where every depth up to
the bound is used up a page is cut off (`nests_of_page`).
-/

namespace EdgeWorker.Template

open EdgeWorker.Host EdgeWorker.Json Rendering

variable {s : Setting} {body : Body} {registry : String → Option Template} {names : List String} {t : Template} {n m : String}
  {title : Option String} {scene : Scene} {indent : List Char} {x : Fault}

/-! ### Inclusions -/

theorem aside_error {change : Scene → Scene} {m : Rendering Unit} (h : m.run (change scene) = .error x) :
    (aside change m).run scene = .error x := by
  unfold aside
  simp only [StateT.run_bind, StateT.run_get, pure_bind, StateT.run_set, h]
  rfl

/-- A partial that cannot be written leaves nothing of what it is included in. -/
theorem writeIncluded_error (hcurrent : scene.current ≠ some n) (hincluded : included s scene n none = some (title, t))
    (hbody : ∀ scene', scene'.defined = scene.defined → scene'.given = scene.given → (body title t).run scene' = .error x) :
    (writeIncluded s body n [] [] indent none).run scene = .error x := by
  unfold writeIncluded
  simp only [includedLevels, List.isEmpty_nil, ↓reduceIte, List.head?_nil, Option.bind_none, liftM_pure,
    Option.toList_none, List.nil_append, pure_bind, StateT.run_bind, StateT.run_get, hcurrent, hincluded]
  exact aside_error (hbody _ rfl rfl)

theorem write_inclusion (s : Setting) (body : Body) (n : Name) (indent : List Char) (scene : Scene) :
    ((Element.include ⟨.named n, [], []⟩ indent none).write s body).run scene =
      (writeIncluded s body n.text [] [] indent none).run scene := rfl

/-! ### Circles -/

/-- The name of the inclusion that a template begins with, if nothing comes with it. -/
def firstInclusion? : Template → Option String
  | .include ⟨.named n, [], []⟩ _ none :: _ => some n.text
  | _ => none

/-- The templates of these names begin with inclusions of others of them. -/
def Circle (registry : String → Option Template) (names : List String) : Prop :=
  ∀ n ∈ names, ∃ m ∈ names, m ≠ n ∧ (registry n).bind firstInclusion? = some m

instance : Decidable (Circle registry names) := inferInstanceAs (Decidable (∀ n ∈ names, ∃ m ∈ names, _))

/-- However deep templates may nest, these nest deeper. -/
theorem writeTo_tooDeep (h : Circle s.registry names) (depth : Nat) (hm : m ∈ names) (hfirst : firstInclusion? t = some m)
    (hother : title ≠ some m) (hdefined : scene.defined = []) (hgiven : scene.given = []) :
    (writeTo s depth title t).run scene = .error .tooDeep := by
  induction depth generalizing t m title scene with
  | zero => rfl
  | succ depth ih =>
    obtain ⟨m', hm', hother', hnext⟩ := h m hm
    obtain ⟨t', hregistry, hfirst'⟩ := Option.bind_eq_some_iff.1 hnext
    unfold firstInclusion? at hfirst
    split at hfirst
    · next n indent rest =>
      cases hfirst
      have hincluded : included s { scene with current := title } n.text none = some (some n.text, t') := by
        simp [included, hdefined, hgiven, hregistry]
      -- one level further in there is the same to be written
      have hinner : (writeIncluded s (writeTo s depth) n.text [] [] indent none).run { scene with current := title } =
          .error .tooDeep :=
        writeIncluded_error hother hincluded fun scene' hd hg =>
          ih hm' hfirst' (fun h => hother' (Option.some.inj h).symm) (hd.trans hdefined) (hg.trans hgiven)
      rw [writeTo]
      simp only [List.forM_eq_forM, List.forM_cons, StateT.run_bind, StateT.run_modify, pure_bind, write_inclusion, hinner]
      rfl
    · cases hfirst

/-- A template that leads into a circle has no page. -/
theorem Engine.page_tooDeep {e : Engine} {path : String} (h : Circle e.library.registry.get? names)
    (hm : m ∈ names) (hfirst : (e.library.registry.get? path).bind firstInclusion? = some m) (hother : path ≠ m)
    (data : Value) : e.page path data = .error (.render path .tooDeep) := by
  obtain ⟨t, hregistry, hfirst⟩ := Option.bind_eq_some_iff.1 hfirst
  have hdeep : (writeTo ⟨data, e.library.registry.get?⟩ maxNesting (some path) t).run .start = .error .tooDeep :=
    writeTo_tooDeep h maxNesting hm hfirst (fun h => hother (Option.some.inj h)) rfl rfl
  unfold page Template.render
  rw [hregistry]
  dsimp only
  rw [hdeep]
  rfl

/-- The page of a template, with some data, needs more depth than there is. -/
def Engine.Nests (e : Engine) (path : String) : Prop :=
  ∃ data t, e.library.registry.get? path = some t ∧
    ∀ depth ≤ maxNesting, (writeTo ⟨data, e.library.registry.get?⟩ depth (some path) t).run .start = .error .tooDeep

theorem Engine.nests_of_page {e : Engine} {path q : String} {data : Value}
    (h : e.page path data = .error (.render q .tooDeep)) : e.Nests path := by
  unfold page at h
  split at h
  · cases h
  · next t ht =>
    split at h
    · cases h
    · next fault hfault =>
      cases h
      unfold Template.render at hfault
      have hdeep : (writeTo ⟨data, e.library.registry.get?⟩ maxNesting (some path) t).run .start = .error .tooDeep := by
        cases hwrite : (writeTo ⟨data, e.library.registry.get?⟩ maxNesting (some path) t).run .start with
        | error x =>
          rw [hwrite] at hfault
          cases hfault
          rfl
        | ok p =>
          rw [hwrite] at hfault
          cases hfault
      refine ⟨data, t, ht, fun depth hle => ?_⟩
      by_contra hne
      obtain ⟨more, hmore⟩ := Nat.exists_eq_add_of_le hle
      rw [hmore] at hdeep
      exact hne ((writeTo_add hne more).symm.trans hdeep)

theorem Engine.nests_of_renderWithin {σ : Type} {handle : Handler σ} {e : Engine} {steps : Nat} {path q : String}
    {data : Value} {t : σ} (h : ((e.renderWithin steps path data).run handle t).1.1 = .error (.render q .tooDeep)) :
    ((e.renderWithin steps path data).run handle t).1.2.Nests path := by
  have hload := loadWithin_ne_render handle e steps path t q .tooDeep
  unfold renderWithin at h ⊢
  rw [Action.run_do] at h ⊢
  generalize (e.loadWithin steps path).run handle t = loaded at h hload ⊢
  obtain ⟨⟨x | ⟨⟩, e'⟩, t'⟩ := loaded
  · have hx : x = .render q .tooDeep := Except.error.inj h
    exact absurd (congrArg Except.error hx) hload
  · exact nests_of_page h

end EdgeWorker.Template
