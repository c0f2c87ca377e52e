import EdgeWorker.Proofs.Cache.Frame
import EdgeWorker.Proofs.Cache.Undo

/-!
What putting several entries leaves behind when it fails.

* `Written` — all entries are there, listed or not;
* `answerOf_of_putAll_error` — putting entries that fails either changes nothing or leaves them all written.
-/

namespace EdgeWorker.Cache

open EdgeWorker.Action

namespace Persistent

open KeyValue

variable {c c' d : Contents} {t : List Exchange} {g key url : String} {entries : List (String × Entry)} {e : Error}

/-- Listing entries goes through two changes: the generation is opened, and the index is set. -/
theorem publish_trial {r : Except Error Unit} (h : Trial c (publish g entries).run t r c') :
    ∃ d, (d = c ∨ ∃ names, listOf (c generationsKey) = .ok names ∧ d = opened c names g) ∧
      (c' = d ∨ ∃ urls, listOf (c (indexKey g)) = .ok urls ∧
        c' = Function.update d (indexKey g) (some (listText (listed urls entries)))) := by
  have hopen {t r d} (h₁ : Trial c (openGeneration g).run t r d) :
      d = c ∨ ∃ names, listOf (c generationsKey) = .ok names ∧ d = opened c names g :=
    (openGeneration_trial h₁).symm.imp_left And.left
  have hindex {d : Contents} (hd : d = c ∨ ∃ names, listOf (c generationsKey) = .ok names ∧ d = opened c names g) :
      d (indexKey g) = c (indexKey g) := by
    obtain rfl | ⟨names, -, rfl⟩ := hd
    · rfl
    · exact opened_of_ne (indexKey_ne_generationsKey g)
  rcases trial_attempt.1 h with ⟨t₁, t₂, _, d, -, h₁, h₂⟩ | ⟨e, h₁, -⟩
  · refine ⟨d, hopen h₁, ?_⟩
    rcases trial_attempt.1 h₂ with ⟨t₃, t₄, urls, d', -, h₃, h₄⟩ | ⟨e, h₃, -⟩
    · obtain ⟨rfl, hurls⟩ := readList_trial h₃
      have hl := hurls urls rfl
      rw [hindex (hopen h₁)] at hl
      exact (writeList_trial h₄).symm.imp And.left fun he => ⟨urls, hl, he⟩
    · exact .inl (readList_trial h₃).1
  · exact ⟨c', hopen h₁, .inl rfl⟩

/-- All entries are there. They may be listed or not, and so may their generation. -/
structure Written (g : String) (entries : List (String × Entry)) (c c' : Contents) : Prop where
  found : ∀ url, answerOf c' (.get g url) =
    ((Keyed.ofList entries).get? url).elim (answerOf c (.get g url)) fun entry => .ok (some entry)
  urls : answerOf c' (.urls g) = answerOf c (.urls g) ∨
    ∃ urls, listOf (c (indexKey g)) = .ok urls ∧ answerOf c' (.urls g) = .ok (sorted (listed urls entries))
  names : answerOf c' .generations = answerOf c .generations ∨ ∃ names, answerOf c .generations = .ok names ∧
    g ∉ names ∧ answerOf c' .generations = .ok (names ++ [g])

theorem written_of_publish {r : Except Error Unit}
    (h : Trial (c.setAll (texts g entries)) (publish g entries).run t r c') : Written g entries c c' := by
  have hnames : c.setAll (texts g entries) generationsKey = c generationsKey :=
    setAll_texts_of_ne fun url => (entryKey_ne_generationsKey g url).symm
  have hurls : c.setAll (texts g entries) (indexKey g) = c (indexKey g) :=
    setAll_texts_of_ne fun url => (entryKey_ne_indexKey_self g url).symm
  obtain ⟨d, hd, hc⟩ := publish_trial h
  have hd_of_ne {key} (hk : key ≠ generationsKey) : d key = c.setAll (texts g entries) key := by
    obtain rfl | ⟨names, -, rfl⟩ := hd
    · rfl
    · exact opened_of_ne hk
  have hc_of_ne {key} (hk : key ≠ indexKey g) : c' key = d key := by
    obtain rfl | ⟨urls, -, rfl⟩ := hc
    · rfl
    · exact Function.update_of_ne hk _ _
  refine ⟨fun url => ?_, ?_, ?_⟩
  · rw [answerOf_get, answerOf_get, hc_of_ne (entryKey_ne_indexKey_self g url),
      hd_of_ne (entryKey_ne_generationsKey g url), setAll_texts]
    cases (Keyed.ofList entries).get? url with
    | none => rfl
    | some entry => exact entryOf_json entry
  · rw [answerOf_urls, answerOf_urls]
    obtain rfl | ⟨urls, hl, rfl⟩ := hc
    · rw [hd_of_ne (indexKey_ne_generationsKey g), hurls]
      exact .inl rfl
    · rw [hurls] at hl
      exact .inr ⟨urls, hl, by rw [Function.update_self, listOf_listText]; rfl⟩
  · rw [answerOf_generations, answerOf_generations, hc_of_ne (indexKey_ne_generationsKey g).symm]
    obtain rfl | ⟨names, hl, rfl⟩ := hd
    · exact .inl (congrArg listOf hnames)
    · rw [hnames] at hl
      unfold opened
      split
      · exact .inl (congrArg listOf hnames)
      · next hg => exact .inr ⟨names, hl, hg, by rw [Function.update_self, listOf_listText]⟩

/-- Putting entries that fails, with no value lost: a failure while they are written leaves no trace, and all later
operations are answered as before; a failure behind that leaves all entries to be found. -/
theorem answerOf_of_putAll_error (h : Trial c (perform (.putAll g entries)) t (.error e) c') (hq : Quiet t) :
    ((setAll (texts g entries)).run.Ends t (.error e) ∧ ∀ op, answerOf c' op = answerOf c op) ∨
      (∃ t₁ t₂, t = t₁ ++ t₂ ∧ (setAll (texts g entries)).run.Ends t₁ (.ok ())) ∧ Written g entries c c' := by
  have hput : Trial c (setAll (texts g entries) >>= fun _ => publish g entries).run t (.error e) c' := h
  rcases trial_attempt.1 hput with ⟨t₁, t₂, _, d, rfl, h₁, h₂⟩ | ⟨e', h₁, he⟩
  · obtain ⟨-, rfl⟩ | ⟨⟨e', he⟩, -⟩ := setAll_trial h₁
    · exact .inr ⟨⟨t₁, t₂, rfl, h₁.ends⟩, written_of_publish h₂⟩
    · cases he
  · cases he
    obtain ⟨he, -⟩ | ⟨-, hc⟩ := setAll_trial h₁
    · cases he
    · exact .inl ⟨h₁.ends, fun op => by rw [hc hq]⟩

/-- The answers of an empty store that refuses to set one index, while one entry is put. -/
def refusedIndex : List Exchange :=
  [⟨.get (entryKey "v1" "a"), .ok none⟩, ⟨.set (entryKey "v1" "a") (Text.utf8 (Entry.of 200 [] .epoch).json), .ok ()⟩,
    ⟨.get generationsKey, .ok none⟩, ⟨.set generationsKey (listText ["v1"]), .ok ()⟩,
    ⟨.get (indexKey "v1"), .ok none⟩, ⟨.set (indexKey "v1") (listText ["a"]), .error (.storage "refused")⟩]

def unlisted : Contents :=
  Function.update (Function.update (fun _ => none) (entryKey "v1" "a") (some (Text.utf8 (Entry.of 200 [] .epoch).json)))
    generationsKey (some (listText ["v1"]))

theorem trial_refusedIndex : Trial (fun _ => none) (perform (.putAll "v1" [("a", .of 200 [] .epoch)])) refusedIndex
    (.error (.storage "refused")) unlisted where
  ends := ⟨_, _, rfl, _, _, rfl, _, _, rfl, _, _, rfl, _, _, rfl, _, _, rfl, rfl, rfl⟩
  follows := ⟨_, ⟨rfl, rfl⟩, _, rfl, _, ⟨rfl, rfl⟩, _, rfl, _, ⟨rfl, rfl⟩, _, .inl rfl, rfl⟩

theorem quiet_refusedIndex : Quiet refusedIndex := by simp [Quiet, refusedIndex]

theorem answerOf_of_refusedIndex : Trial (fun _ => none) (perform (.putAll "v1" [("a", .of 200 [] .epoch)]))
    refusedIndex (.error (.storage "refused")) unlisted ∧ Quiet refusedIndex ∧
      (((setAll (texts "v1" [("a", .of 200 [] .epoch)])).run.Ends refusedIndex (.error (.storage "refused")) ∧
          ∀ op, answerOf unlisted op = answerOf (fun _ => none) op) ∨
        (∃ t₁ t₂, refusedIndex = t₁ ++ t₂ ∧
            (setAll (texts "v1" [("a", .of 200 [] .epoch)])).run.Ends t₁ (.ok ())) ∧
          Written "v1" [("a", .of 200 [] .epoch)] (fun _ => none) unlisted) :=
  ⟨trial_refusedIndex, quiet_refusedIndex, answerOf_of_putAll_error trial_refusedIndex quiet_refusedIndex⟩

/-- The call failed with no value lost, its entry was not there before and is there now, and no list has it. -/
theorem answerOf_get_unlisted : ∃ t e c', Trial (fun _ => none)
    (perform (.putAll "v1" [("a", .of 200 [] .epoch)])) t (.error e) c' ∧ Quiet t ∧
      answerOf (fun _ => none) (.get "v1" "a") = .ok none ∧
      answerOf c' (.get "v1" "a") = .ok (some (.of 200 [] .epoch)) ∧ answerOf c' (.urls "v1") = .ok [] := by
  refine ⟨refusedIndex, .storage "refused", unlisted, trial_refusedIndex, quiet_refusedIndex, ?_, ?_, ?_⟩
  · rw [answerOf_get, entryOf_none]
  · rw [answerOf_get, unlisted, Function.update_of_ne (entryKey_ne_generationsKey "v1" "a"), Function.update_self,
      entryOf_json]
  · rw [answerOf_urls, unlisted, Function.update_of_ne (indexKey_ne_generationsKey "v1"),
      Function.update_of_ne (entryKey_ne_indexKey_self "v1" "a").symm]
    simp [listOf_none, Except.map, sorted]

end Persistent
end EdgeWorker.Cache
