import EdgeWorker.Proofs.Cache.Contents

/-!
Setting several values in a store that may fail, key by key.

* `failure?` — how an exchange failed;
* `Regained key t` — the last attempt to change a key, if there was one, succeeded;
* `restore_trial` — taking values back leads back under every key that is regained (`Contents.restored`), whatever became
  of the other keys;
* `setFrom_trial` — the invariant of setting several values: taking back what was reached so far leads to the start;
* `setAll_spec` — all values are set where nothing fails, and otherwise every key that is regained has its old value.
-/

namespace EdgeWorker.Cache.KeyValue

open EdgeWorker.Action

variable {c c' d : Contents} {t t' : List Exchange} {key : String} {previous : List (String × Option Bytes)}
  {pairs : List (String × Bytes)}

/-! ### Attempts to change a key -/

/-- How an exchange failed, if it did. -/
def failure? : Exchange → Option Error
  | ⟨.get _, .error e⟩ => some e
  | ⟨.set _ _, .error e⟩ => some e
  | ⟨.delete _, .error e⟩ => some e
  | _ => none

instance Question.decidableChanges (key : String) : DecidablePred (Question.Changes key)
  | .set k _ => inferInstanceAs (Decidable (k = key))
  | .delete k => inferInstanceAs (Decidable (k = key))
  | .get _ => inferInstanceAs (Decidable False)
  | .report _ _ => inferInstanceAs (Decidable False)

/-- The last attempt to change a key, if there was one, did not fail. -/
def Regained (key : String) (t : List Exchange) : Prop :=
  ∀ x ∈ (t.filter fun x => x.1.Changes key).getLast?, failure? x = none

theorem Regained.of_append (h : Regained key (t ++ t')) : Regained key t' := by
  intro x hx
  refine h x ?_
  rw [List.filter_append, List.getLast?_append, Option.mem_def.1 hx]
  rfl

/-- An attempt after which there is none did not fail. -/
theorem Regained.failure?_eq_none {x : Exchange} (h : Regained key (x :: t)) (hx : x.1.Changes key)
    (ht : ∀ y ∈ t, ¬ y.1.Changes key) : failure? x = none := by
  refine h x ?_
  have hnone : (t.filter fun y => y.1.Changes key) = [] := List.filter_eq_nil_iff.2 fun y hy => by simpa using ht y hy
  rw [List.filter_cons_of_pos (by simpa using hx), hnone]
  rfl

theorem regained_of_forall (h : ∀ x ∈ t, failure? x = none) (key : String) : Regained key t :=
  fun x hx => h x (List.mem_filter.1 (List.mem_of_getLast? hx)).1

theorem Question.Changes.unique {q : Question} {k : String} (h : q.Changes key) (h' : q.Changes k) : k = key := by
  cases q <;> first | exact h.elim | exact h'.symm.trans h

/-! ### Taking values back -/

def Contents.restored (c : Contents) (previous : List (String × Option Bytes)) : Contents :=
  previous.foldl (fun c (key, old) => Function.update c key old) c

/-- Of a key that is taken back it does not matter what it was. -/
theorem restored_congr (h : key ∈ previous.map Prod.fst ∨ c key = d key) :
    c.restored previous key = d.restored previous key := by
  induction previous generalizing c d with
  | nil => exact h.resolve_left List.not_mem_nil
  | cons p previous ih =>
    refine ih ?_
    by_cases hp : key = p.1
    · exact .inr (by simp [hp])
    · rw [List.map_cons, List.mem_cons] at h
      simpa [hp] using h

/-- Of a key that is taken back first it does not matter what was set. -/
theorem update_restored (hd : ∀ k, k ≠ key → d k = c k) : d.restored ((key, c key) :: previous) = c.restored previous := by
  have he : Function.update d key (c key) = c := by
    funext k
    by_cases hk : k = key
    · rw [hk, Function.update_self]
    · rw [Function.update_of_ne hk, hd k hk]
  show Contents.restored (Function.update d key (c key)) previous = _
  rw [he]

/-- A value is taken back by one attempt, and is the old one again if that does not fail. -/
theorem takeBack_trial {old : Option Bytes} {r : Except Error Unit} (h : Trial c (takeBack key old).run t r d) :
    ∃ x, t = [x] ∧ x.1.Changes key ∧ Takes c x d ∧ match r with
      | .ok () => failure? x = none ∧ d = Function.update c key old
      | .error e => failure? x = some e := by
  cases old <;>
  · obtain ⟨rfl, hx⟩ := trial_question.1 h
    refine ⟨_, rfl, rfl, hx, ?_⟩
    cases r with
    | ok => exact ⟨rfl, hx⟩
    | error e => rfl

/-- The first value is taken back, then the others; in between the first one is reported if it is lost. -/
theorem restore_cons_trial {old : Option Bytes} {r : Unit} (h : Trial c (restore ((key, old) :: previous)) t r c') :
    ∃ x d reports more, t = x :: (reports ++ more) ∧ x.1.Changes key ∧ Takes c x d ∧ Trial d (restore previous) more r c' ∧
      (failure? x = none ∧ d = Function.update c key old ∧ reports = [] ∨
        ∃ e, failure? x = some e ∧ reports = [⟨.report key e, ()⟩]) := by
  rw [restore_cons, trial_bind] at h
  obtain ⟨_, t₂, result, d, rfl, h₁, h₂⟩ := h
  obtain ⟨x, rfl, hx, htakes, hresult⟩ := takeBack_trial h₁
  cases result with
  | ok => exact ⟨x, _, [], t₂, rfl, hx, htakes, h₂, .inl ⟨hresult.1, hresult.2, rfl⟩⟩
  | error e =>
    obtain ⟨reports, more, _, _, rfl, h₃, h₄⟩ := trial_bind.1 h₂
    obtain ⟨rfl, rfl⟩ := trial_question.1 h₃
    exact ⟨x, _, _, more, rfl, hx, htakes, h₄, .inr ⟨e, hresult, rfl⟩⟩

/-- Only what is taken back is changed on the way. -/
theorem mem_of_restore_changes {r : Unit} (h : Trial c (restore previous) t r c') {x : Exchange} (hx : x ∈ t)
    (hc : x.1.Changes key) : key ∈ previous.map Prod.fst := by
  induction previous generalizing c t with
  | nil =>
    obtain ⟨rfl, -, -⟩ := trial_done.1 h
    cases hx
  | cons p previous ih =>
    obtain ⟨y, d, reports, more, rfl, hy, -, hmore, hreports⟩ := restore_cons_trial h
    rw [List.map_cons, List.mem_cons]
    rcases List.mem_cons.1 hx with rfl | hx
    · exact .inl (hy.unique hc)
    rcases List.mem_append.1 hx with hx | hx
    · obtain ⟨-, -, rfl⟩ | ⟨e, -, rfl⟩ := hreports
      · cases hx
      · cases List.mem_singleton.1 hx
        exact hc.elim
    · exact .inr (ih hmore hx)

/-- **Under every key that is regained, taking values back leads back**, whatever becomes of the other keys. -/
theorem restore_trial {r : Unit} (h : Trial c (restore previous) t r c') (hkey : Regained key t) :
    c' key = c.restored previous key := by
  induction previous generalizing c t with
  | nil => rw [(trial_done.1 h).2.2]; rfl
  | cons p previous ih =>
    obtain ⟨x, d, reports, more, rfl, hx, htakes, hmore, hreports⟩ := restore_cons_trial h
    have hlater : Regained key more := Regained.of_append (t := x :: reports) hkey
    rw [ih hmore hlater]
    -- it remains to be seen that the key is taken back again, or is the old one after the first attempt
    refine restored_congr (or_iff_not_imp_left.2 fun hnot => ?_)
    by_cases hk : key = p.1
    · subst hk
      have hafter : ∀ y ∈ reports ++ more, ¬ y.1.Changes p.1 := by
        intro y hy hc
        rcases List.mem_append.1 hy with hy | hy
        · obtain ⟨-, -, rfl⟩ | ⟨e, -, rfl⟩ := hreports
          · cases hy
          · cases List.mem_singleton.1 hy
            exact hc
        · exact hnot (mem_of_restore_changes hmore hy hc)
      obtain ⟨-, rfl, -⟩ | ⟨e, he, -⟩ := hreports
      · rfl
      · rw [hkey.failure?_eq_none hx hafter] at he
        cases he
    · rw [htakes.eq_of_not_changes fun hc => hk (hx.unique hc)]
      exact (Function.update_of_ne hk _ _).symm

/-- Where no value is lost, none of the attempts failed. -/
theorem failure?_of_quiet {r : Unit} (h : Trial c (restore previous) t r c') (hq : Quiet t) : ∀ x ∈ t, failure? x = none := by
  induction previous generalizing c t with
  | nil =>
    obtain ⟨rfl, -, -⟩ := trial_done.1 h
    exact List.forall_mem_nil _
  | cons p previous ih =>
    obtain ⟨x, d, reports, more, rfl, -, -, hmore, ⟨hx, -, rfl⟩ | ⟨e, -, rfl⟩⟩ := restore_cons_trial h
    · exact List.forall_mem_cons.2 ⟨hx, ih hmore (Quiet.of_append (t := [x]) hq).2⟩
    · exact absurd (by simp) (hq p.1 e)

/-! ### Setting values -/

/-- One exchange failed, those before it did not, and from there on values were taken back: under every key that is
regained that leads to where `previous` leads. -/
def Undone (c : Contents) (previous : List (String × Option Bytes)) (t : List Exchange) (e : Error) (c' : Contents) : Prop :=
  ∃ forward failed rollback, t = forward ++ failed :: rollback ∧ (∀ x ∈ forward, failure? x = none) ∧
    failure? failed = some e ∧ (∃ d saved, Trial d (restore saved) rollback () c') ∧
    ∀ key, Regained key rollback → c' key = c.restored previous key

/-- One more exchange that did not fail. -/
theorem Undone.cons {x : Exchange} {e : Error} {saved : List (String × Option Bytes)} (h : Undone d saved t e c')
    (hx : failure? x = none) (hback : d.restored saved = c.restored previous) : Undone c previous (x :: t) e c' := by
  obtain ⟨forward, failed, rollback, rfl, hforward, hfailed, hrestore, hkeys⟩ := h
  refine ⟨x :: forward, failed, rollback, rfl, List.forall_mem_cons.2 ⟨hx, hforward⟩, hfailed, hrestore, fun key hkey => ?_⟩
  rw [hkeys key hkey, hback]

/-- The exchange that fails is followed by taking values back. -/
theorem undone_of_restore {x : Exchange} {e : Error} {saved : List (String × Option Bytes)}
    (h : Trial d (restore saved) t () c') (hx : failure? x = some e) (hback : d.restored saved = c.restored previous) :
    Undone c previous (x :: t) e c' :=
  ⟨[], x, t, rfl, List.forall_mem_nil _, hx, ⟨d, saved, h⟩, fun _ hkey => hback ▸ restore_trial h hkey⟩

/-- Values that are set one after another are all set; or something failed, and everything reached so far was taken
back. -/
theorem setFrom_trial {r : Except Error Unit} (h : Trial c (setFrom previous pairs) t r c') :
    (r = .ok () ∧ c' = c.setAll pairs ∧ ∀ x ∈ t, failure? x = none) ∨ ∃ e, r = .error e ∧ Undone c previous t e c' := by
  induction pairs generalizing c t previous with
  | nil =>
    obtain ⟨rfl, rfl, rfl⟩ := trial_done.1 h
    exact .inl ⟨rfl, rfl, List.forall_mem_nil _⟩
  | cons p pairs ih =>
    obtain ⟨key, value⟩ := p
    obtain ⟨t₁, t₂, old, d, rfl, h₁, h₂⟩ := trial_bind.1 h
    obtain ⟨rfl, hget⟩ := trial_question.1 h₁
    cases old with
    | error e =>
      obtain rfl : d = c := hget
      obtain ⟨t₃, t₄, ⟨⟩, d', rfl, h₃, h₄⟩ := trial_bind.1 h₂
      obtain ⟨rfl, rfl, rfl⟩ := trial_done.1 h₄
      rw [List.append_nil]
      exact .inr ⟨e, rfl, undone_of_restore h₃ rfl rfl⟩
    | ok old =>
      obtain ⟨rfl, rfl⟩ : old = c key ∧ d = c := hget
      obtain ⟨t₃, t₄, result, d', rfl, h₃, h₄⟩ := trial_bind.1 h₂
      obtain ⟨rfl, hset⟩ := trial_question.1 h₃
      -- whether the store has set the key or not, taking its old value back leads to where `previous` leads
      have hback : d'.restored ((key, d key) :: previous) = d.restored previous := update_restored fun k hk =>
        hset.eq_of_not_changes fun hc : key = k => hk hc.symm
      cases result with
      | error e =>
        obtain ⟨t₅, t₆, ⟨⟩, d'', rfl, h₅, h₆⟩ := trial_bind.1 h₄
        obtain ⟨rfl, rfl, rfl⟩ := trial_done.1 h₆
        rw [List.append_nil]
        exact .inr ⟨e, rfl, (undone_of_restore h₅ rfl hback).cons rfl rfl⟩
      | ok =>
        rcases ih h₄ with ⟨rfl, hc, hnone⟩ | ⟨e, rfl, hundone⟩
        · obtain rfl : d' = Function.update d key (some value) := hset
          exact .inl ⟨rfl, hc, List.forall_mem_cons.2 ⟨rfl, List.forall_mem_cons.2 ⟨rfl, hnone⟩⟩⟩
        · exact .inr ⟨e, rfl, (hundone.cons rfl hback).cons rfl rfl⟩

/-- All values are set, or, as long as none is lost, nothing is changed. -/
theorem setAll_trial {r : Except Error Unit} (h : Trial c (setAll pairs).run t r c') :
    r = .ok () ∧ c' = c.setAll pairs ∨ (∃ e, r = .error e) ∧ (Quiet t → c' = c) := by
  rcases setFrom_trial h with ⟨rfl, hc, -⟩ | ⟨e, rfl, forward, failed, rollback, rfl, -, -, ⟨d, saved, hrestore⟩, hkeys⟩
  · exact .inl ⟨rfl, hc⟩
  · refine .inr ⟨⟨e, rfl⟩, fun hq => funext fun key => hkeys key (regained_of_forall ?_ key)⟩
    exact failure?_of_quiet hrestore (Quiet.of_append (t := [failed]) hq.of_append.2).2

/-- Of values that are set for one key the last one counts. -/
theorem setAll_apply (c : Contents) (pairs : List (String × Bytes)) (key : String) :
    c.setAll pairs key = (pairs.reverse.lookup key).or (c key) := by
  induction pairs generalizing c with
  | nil => rfl
  | cons p pairs ih =>
    obtain ⟨k, value⟩ := p
    have hset : Function.update c k (some value) key = ([(k, value)].lookup key).or (c key) := by
      by_cases hk : key = k
      · simp [hk]
      · simp [hk, List.lookup_cons, beq_false_of_ne hk]
    rw [show c.setAll ((k, value) :: pairs) = Contents.setAll (Function.update c k (some value)) pairs from rfl, ih, hset,
      List.reverse_cons, List.lookup_append, Option.or_assoc]

/-- What follows the first exchange that failed. -/
def rollback (t : List Exchange) : List Exchange := (t.dropWhile fun x => failure? x = none).tail

theorem rollback_append {forward : List Exchange} {failed : Exchange} {e : Error} (h : ∀ x ∈ forward, failure? x = none)
    (hfailed : failure? failed = some e) : rollback (forward ++ failed :: t) = t := by
  unfold rollback
  rw [List.dropWhile_append_of_pos fun x hx => decide_eq_true (h x hx), List.dropWhile_cons_of_neg (by simp [hfailed])]
  rfl

/-- **All values are set, or every key that was regained is as before.** The first failure is the result. If there is none,
every key has the last value that was to be set for it, or what it had. Otherwise a key has what it had unless the last
attempt to change it behind that failure failed too: whether it was reached or not, how often it was to be set, whether the
value at which it failed was written, and whatever became of the other keys. -/
theorem setAll_spec {r : Except Error Unit} (h : Trial c (setAll pairs).run t r c') :
    (r = match t.findSome? failure? with
      | some e => .error e
      | none => .ok ()) ∧
    (r = .ok () → ∀ key, c' key = (pairs.reverse.lookup key).or (c key)) ∧
    ((∃ e, r = .error e) → ∀ key, Regained key (rollback t) → c' key = c key) := by
  rcases setFrom_trial h with ⟨rfl, rfl, hnone⟩ | ⟨e, rfl, forward, failed, t, rfl, hforward, hfailed, -, hkeys⟩
  · rw [List.findSome?_eq_none_iff.2 hnone]
    exact ⟨rfl, fun _ => setAll_apply c pairs, nofun⟩
  · rw [List.findSome?_append, List.findSome?_eq_none_iff.2 hforward, List.findSome?_cons, hfailed,
      rollback_append hforward hfailed]
    exact ⟨rfl, nofun, fun _ => hkeys⟩

def single : Contents := Function.update (fun _ => none) "a" (some [0])

/-- It refuses to set that value for the second time, though it does set it, and then refuses to take it back once. The
other value is lost. -/
def refused : List Exchange :=
  [⟨.get "a", .ok (some [0])⟩, ⟨.set "a" [1], .ok ()⟩, ⟨.get "b", .ok none⟩, ⟨.set "b" [2], .ok ()⟩,
    ⟨.get "a", .ok (some [1])⟩, ⟨.set "a" [3], .error (.storage "full")⟩,
    ⟨.set "a" [1], .error (.storage "busy")⟩, ⟨.report "a" (.storage "busy"), ()⟩,
    ⟨.delete "b", .error (.storage "busy")⟩, ⟨.report "b" (.storage "busy"), ()⟩, ⟨.set "a" [0], .ok ()⟩]

def spoiled : Contents := single.restored [("a", some [1]), ("b", some [2]), ("a", some [3]), ("a", some [0])]

theorem trial_refused : Trial single (setAll [("a", [1]), ("b", [2]), ("a", [3])]).run refused (.error (.storage "full"))
    spoiled where
  ends := ⟨_, _, rfl, _, _, rfl, _, _, rfl, _, _, rfl, _, _, rfl, _, _, rfl, _, _, rfl, _, _, rfl, _, _, rfl, _, _, rfl,
    _, _, rfl, rfl, rfl⟩
  follows := ⟨_, ⟨rfl, rfl⟩, _, rfl, _, ⟨rfl, rfl⟩, _, rfl, _, ⟨rfl, rfl⟩, _, .inr rfl, _, .inl rfl, _, rfl, _, .inl rfl,
    _, rfl, _, rfl, rfl⟩

/-- The value that was to be set twice is the old one, and the other one is still there. -/
theorem setAll_spec_of_refused :
    Trial single (setAll [("a", [1]), ("b", [2]), ("a", [3])]).run refused (.error (.storage "full")) spoiled ∧
    Regained "a" (rollback refused) ∧ spoiled "a" = some [0] ∧ ¬ Regained "b" (rollback refused) ∧ spoiled "b" = some [2] := by
  have ha : Regained "a" (rollback refused) := by unfold Regained; decide
  have hb : ¬ Regained "b" (rollback refused) := by unfold Regained; decide
  exact ⟨trial_refused, ha, (setAll_spec trial_refused).2.2 ⟨_, rfl⟩ "a" ha, hb, rfl⟩

end EdgeWorker.Cache.KeyValue
