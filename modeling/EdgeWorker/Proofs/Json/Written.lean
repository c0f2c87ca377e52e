import EdgeWorker.Json.Record
import EdgeWorker.Proofs.Json.Literal

/-!
What the printer writes is read back as the tree that it was written for.

* `Reads cs s s'` — the text `cs` takes the reader from the state `s` to the state `s'`, whatever follows, as long as
  that does not go on with a number or a word;
* `Writes cs t` — the text `cs` is read as the tree `t` wherever a value may stand;
* `writes_quote`, `writes_digits`, `writes_brackets`, `writes_record` — strings, naturals, arrays and records;
* `Writes.ofBytes?` — a text that is written for a tree is read as that tree.
-/

namespace EdgeWorker.Json

open EdgeWorker.Text EdgeWorker.Decimal
open EdgeWorker.Json.Tree (State Frame place placeToken placeKey maxDepth)

variable {cs ds : List Char} {s s' s'' : State} {t : Tree} {token : Token} {c : Char} {α : Type}

/-- A text takes the reader from one state to another. -/
def Reads (cs : List Char) (s s' : State) : Prop := ∃ tokens : List Token,
  (∀ rest, Apart rest → tokensFrom .gap (utf8 cs ++ rest) = (tokensFrom .gap rest).map (tokens ++ ·)) ∧
    tokens.foldlM Tree.step s = some s'

/-- A text is read as a tree wherever a value may stand. -/
def Writes (cs : List Char) (t : Tree) : Prop := ∀ frames, Reads cs ⟨frames, .value, none⟩ (place t frames)

/-! ### One text after another -/

theorem Reads.append (h : Reads cs s s') (h' : Reads ds s' s'')
    (ha : ∀ rest, Apart rest → Apart (utf8 ds ++ rest)) : Reads (cs ++ ds) s s'' := by
  obtain ⟨tokens, hread, hstep⟩ := h
  obtain ⟨tokens', hread', hstep'⟩ := h'
  refine ⟨tokens ++ tokens', fun rest hr => ?_, ?_⟩
  · rw [utf8_append, List.append_assoc, hread _ (ha rest hr), hread' rest hr]
    simp [Function.comp_def]
  · rw [List.foldlM_append, hstep]
    exact hstep'

/-- A character that is a token by itself. -/
def IsMark (c : Char) (token : Token) : Prop := ∃ b, utf8 [c] = [b] ∧ start b = some ([token], .gap) ∧
  isNumeric b = false ∧ isLetter b = false

theorem isMark_comma : IsMark ',' .comma := ⟨0x2C, rfl, rfl, rfl, rfl⟩
theorem isMark_colon : IsMark ':' .colon := ⟨0x3A, rfl, rfl, rfl, rfl⟩
theorem isMark_openArray : IsMark '[' .openArray := ⟨0x5B, rfl, rfl, rfl, rfl⟩
theorem isMark_closeArray : IsMark ']' .closeArray := ⟨0x5D, rfl, rfl, rfl, rfl⟩
theorem isMark_openObject : IsMark '{' .openObject := ⟨0x7B, rfl, rfl, rfl, rfl⟩
theorem isMark_closeObject : IsMark '}' .closeObject := ⟨0x7D, rfl, rfl, rfl, rfl⟩

theorem IsMark.utf8_cons {b : UInt8} (h : utf8 [c] = [b]) (ds : List Char) : utf8 (c :: ds) = b :: utf8 ds := by
  rw [← List.singleton_append, utf8_append, h]
  rfl

/-- A mark ends whatever stands before it. -/
theorem IsMark.apart (h : IsMark c token) (ds : List Char) (rest : Bytes) : Apart (utf8 (c :: ds) ++ rest) := by
  obtain ⟨b, hb, -, hn, hl⟩ := h
  rw [IsMark.utf8_cons hb]
  rintro x ⟨⟩
  exact ⟨hn, hl⟩

theorem IsMark.cons (h : IsMark c token) (hs : Tree.step s token = some s') (h' : Reads ds s' s'') :
    Reads (c :: ds) s s'' := by
  obtain ⟨b, hb, hstart, -⟩ := h
  obtain ⟨tokens, hread, hstep⟩ := h'
  refine ⟨token :: tokens, fun rest hr => ?_, ?_⟩
  · rw [IsMark.utf8_cons hb, List.cons_append, tokensFrom_cons]
    simp only [step, hstart, hread rest hr]
    simp [Function.comp_def]
  · rw [List.foldlM_cons, hs]
    exact hstep

theorem Reads.nil (s : State) : Reads [] s s := ⟨[], fun rest _ => by simp, rfl⟩

theorem Reads.append_mark (h : Reads cs s s') (hm : IsMark c token) (hs : Tree.step s' token = some s'')
    {s₃ : State} (h' : Reads ds s'' s₃) : Reads (cs ++ c :: ds) s s₃ :=
  h.append (hm.cons hs h') fun rest _ => hm.apart ds rest

/-- A reader that allows more at its next token reads the same. -/
theorem Reads.of_step {r : State} (h : Reads cs s s') (hne : s ≠ s')
    (hstep : ∀ token x, Tree.step s token = some x → Tree.step r token = some x) : Reads cs r s' := by
  obtain ⟨tokens, hread, hs⟩ := h
  cases tokens with
  | nil => exact absurd (Option.some.inj hs) hne
  | cons token tokens =>
    refine ⟨token :: tokens, hread, ?_⟩
    rw [List.foldlM_cons] at hs ⊢
    obtain ⟨x, hx, hs⟩ := Option.bind_eq_some_iff.1 hs
    rw [hstep token x hx]
    exact hs

/-! ### Literals -/

theorem writes_quote (s : String) : Writes (quote s) (.string (some s)) := by
  obtain ⟨qs, hq, hread⟩ := tokensFrom_quote s
  refine fun frames => ⟨[.string qs], fun rest _ => hread rest, ?_⟩
  simp [Tree.step, placeToken, hq]

theorem writes_digits (n : Nat) :
    ∃ number : Numeral, (n < 1 <<< 64 → number.value? = some (.int n)) ∧ Writes (digits n) (.number number) := by
  obtain ⟨ds, hds, hread⟩ := tokensFrom_digits n
  refine ⟨.ofDigits ds, hds.value?, fun frames => ⟨[.number (.ofDigits ds)], hread, ?_⟩⟩
  simp [Tree.step, placeToken]

/-! ### Containers -/

/-- Pieces with commas between them and a mark behind them: each takes the reader from a state in which a piece may
begin to one in which more may follow. -/
theorem reads_commas {f : α → List Char} (before after final : List α → State) {close : Char} {as : List α}
    (hpiece : ∀ a ∈ as, ∀ read, Reads (f a) (before read) (after (a :: read)))
    (hcomma : ∀ read, Tree.step (after read) .comma = some (before read)) (hm : IsMark close token)
    (hclose : ∀ read, Tree.step (after read) token = some (final read)) (hne : as ≠ []) (read : List α) :
    Reads (commas (as.map f) ++ [close]) (before read) (final (as.reverse ++ read)) := by
  induction as generalizing read with
  | nil => exact absurd rfl hne
  | cons a as ih =>
    have ha := hpiece a List.mem_cons_self read
    cases as with
    | nil => exact ha.append_mark hm (hclose _) (.nil _)
    | cons b bs =>
      have hrest := ih (fun x hx => hpiece x (List.mem_cons_of_mem _ hx)) (List.cons_ne_nil _ _) (a :: read)
      rw [show (a :: b :: bs).reverse ++ read = (b :: bs).reverse ++ a :: read by simp]
      simp only [List.map_cons, commas, List.append_assoc, List.cons_append] at hrest ⊢
      exact ha.append_mark isMark_comma (hcomma _) hrest

theorem place_await (t : Tree) (frames : List Frame) : (place t frames).await = .more := by
  unfold place
  split <;> rfl

theorem Reads.orClose {frames frames' : List Frame} (h : Reads cs ⟨frames, .value, none⟩ (place t frames')) :
    Reads cs ⟨frames, .valueOrClose, none⟩ (place t frames') := by
  refine h.of_step (fun he => ?_) fun token x hx => ?_
  · have := congrArg State.await he
    rw [place_await] at this
    cases this
  · simp only [Tree.step] at hx ⊢
    rw [if_neg]
    · exact hx
    · rintro rfl
      cases hx

theorem Reads.orCloseObject {frames frames' : List Frame} (h : Reads cs ⟨frames, .key, none⟩ (place t frames')) :
    Reads cs ⟨frames, .keyOrClose, none⟩ (place t frames') := by
  refine h.of_step (fun he => ?_) fun token x hx => ?_
  · have := congrArg State.await he
    rw [place_await] at this
    cases this
  · simp only [Tree.step] at hx ⊢
    rw [if_neg]
    · exact hx
    · rintro rfl
      unfold placeKey at hx
      split at hx <;> simp_all

/-- An array is read as the array of what its items are read as. -/
theorem writes_brackets {f : α → List Char} {g : α → Tree} {as : List α} (h : ∀ a ∈ as, Writes (f a) (g a)) :
    Writes (brackets (as.map f)) (.array (as.map g)) := by
  intro frames
  have hopen : Tree.step ⟨frames, .value, none⟩ .openArray = some ⟨.array [] :: frames, .valueOrClose, none⟩ := rfl
  refine isMark_openArray.cons hopen ?_
  by_cases hne : as = []
  · subst hne
    exact isMark_closeArray.cons rfl (.nil _)
  · have hread := reads_commas (fun read => ⟨.array (read.map g) :: frames, .value, none⟩)
      (fun read => ⟨.array (read.map g) :: frames, .more, none⟩)
      (fun read => place (.array (read.map g).reverse) frames) (fun a ha read => h a ha _) (fun _ => rfl)
      isMark_closeArray (fun _ => rfl) hne []
    simp only [List.append_nil, List.map_reverse, List.reverse_reverse] at hread
    exact hread.orClose

theorem reads_member {key : String} {frames : List Frame} {members : List (Option String × Tree)} (h : Writes cs t) :
    Reads (writeMember key cs) ⟨.object members :: frames, .key, none⟩
      ⟨.object ((some key, t) :: members) :: frames, .more, none⟩ := by
  obtain ⟨qs, hq, hread⟩ := tokensFrom_quote key
  have hkey : Reads (quote key) ⟨.object members :: frames, .key, none⟩
      ⟨.member members (some key) :: frames, .colon, none⟩ := by
    refine ⟨[.string qs], fun rest _ => hread rest, ?_⟩
    simp [Tree.step, placeKey, hq]
  exact hkey.append_mark isMark_colon rfl (h _)

/-- A record is read as the object of what its members are read as. -/
theorem writes_record (key : α → String) {f : α → List Char} {g : α → Tree} {as : List α}
    (h : ∀ a ∈ as, Writes (f a) (g a)) :
    Writes (record (as.map fun a => (key a, f a))) (.object (as.map fun a => (some (key a), g a))) := by
  intro frames
  have hopen : Tree.step ⟨frames, .value, none⟩ .openObject = some ⟨.object [] :: frames, .keyOrClose, none⟩ := rfl
  rw [record, List.map_map]
  refine isMark_openObject.cons hopen ?_
  by_cases hne : as = []
  · subst hne
    exact isMark_closeObject.cons rfl (.nil _)
  · have hread := reads_commas (f := fun a => writeMember (key a) (f a))
      (fun read => ⟨.object (read.map fun a => (some (key a), g a)) :: frames, .key, none⟩)
      (fun read => ⟨.object (read.map fun a => (some (key a), g a)) :: frames, .more, none⟩)
      (fun read => place (.object (read.map fun a => (some (key a), g a)).reverse) frames)
      (fun a ha read => reads_member (h a ha)) (fun _ => rfl) isMark_closeObject (fun _ => rfl) hne []
    simp only [List.append_nil, List.map_reverse, List.reverse_reverse] at hread
    exact hread.orCloseObject

/-! ### Whole texts -/

/-- A text that is written for a tree is read as that tree. -/
theorem Writes.ofBytes? (h : Writes cs t) : Tree.ofBytes? (utf8 cs) = some t := by
  obtain ⟨tokens, hread, hstep⟩ := h []
  have htokens := hread [] nofun
  rw [List.append_nil] at htokens
  simp only [Tree.ofBytes?, tokens?, htokens, tokensFrom, finish, Option.map_some, Option.bind_some,
    List.append_nil, Tree.ofTokens?]
  rw [show Tree.start = ⟨[], .value, none⟩ from rfl, hstep]
  rfl

theorem Writes.read {r : Reader α} {a : α} (h : Writes cs t) (hr : r maxDepth t = some a) :
    r.ofBytes? (utf8 cs) = some a := by
  rw [Reader.ofBytes?, h.ofBytes?, Option.bind_some, hr]

end EdgeWorker.Json
