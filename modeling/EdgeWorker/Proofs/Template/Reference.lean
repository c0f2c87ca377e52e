import EdgeWorker.Template.Reference

/-!
The names that a source refers to hold no slash, so that none of them is the path of a template.
-/

namespace EdgeWorker.Template

/-- A name without a slash. -/
def IsPlain (name : String) : Prop := '/' ∉ name.toList

instance : DecidablePred IsPlain := fun name => inferInstanceAs (Decidable ('/' ∉ name.toList))

theorem isNameChar_slash : isNameChar '/' = false := by decide +kernel

theorem isNameChar_of_reference? {text name rest : List Char} (h : reference? text = some (name, rest)) :
    ∀ c ∈ name, isNameChar c := by
  unfold reference? at h
  split at h
  · cases h
  · rename_i inner _
    dsimp only at h
    split at h
    · cases h
    · obtain ⟨tail, -, he⟩ := Option.map_eq_some_iff.1 h
      cases he
      exact fun c hc => List.all_eq_true.1 List.all_takeWhile c hc

theorem isNameChar_of_mem_references {name : String} {text : List Char} (h : name ∈ references text) :
    ∀ c ∈ name.toList, isNameChar c := by
  fun_induction references text with
  | case1 => cases h
  | case2 c text taken rest hr ih =>
    rcases List.mem_cons.1 h with rfl | h
    · rw [String.toList_ofList]
      exact isNameChar_of_reference? hr
    · exact ih h
  | case3 c text hr ih => exact ih h

theorem isPlain_of_mem_partialNames {name source : String} (h : name ∈ partialNames source) : IsPlain name := by
  intro hs
  have hr : name ∈ references source.toList := List.mem_eraseDups.1 h
  have := isNameChar_of_mem_references hr '/' hs
  rw [isNameChar_slash] at this
  cases this

end EdgeWorker.Template
