import EdgeWorker.Proofs.Text.Cut
import EdgeWorker.Proofs.Text.Utf8
import EdgeWorker.Route.Spec

/-!
The scan of a route, over its bytes and over its characters.

* `Token.scan` — the tokens of a text, read character by character; nothing of the text is lost in them
  (`Token.flatMap_source_scan`), and the marks among them are the marks in the text (`Token.functionMark_mem_scan`,
  `Token.templateMark_mem_scan`);
* `Span.scan_utf8_cons` — the bytes of a character at which no mark begins are passed over together;
* `Token.ofText?_eq` — so the scan of the bytes finds the same tokens, and every span that it finds ends between
  characters (`Span.ends_of_mem_scan`).
-/

namespace EdgeWorker.Route

open EdgeWorker.Text

variable {cs front more : List Char}

/-- A template behind its mark, if it is there. -/
def arrowed : Option (List Char) → List Char
  | some cs => '=' :: '>' :: cs
  | none => []

namespace Token

/-! ### Characters -/

/-- The tokens of a text. -/
def scan : List Char → List Token
  | [] => []
  | '@' :: rest => .functionMark :: scan rest
  | '=' :: '>' :: rest => .templateMark :: scan rest
  | c :: rest =>
    match scan rest with
    | .text cs :: more => .text (c :: cs) :: more
    | more => .text [c] :: more

/-- One more character of text in front of tokens. -/
def glue (c : Char) : List Token → List Token
  | .text cs :: more => .text (c :: cs) :: more
  | more => .text [c] :: more

theorem flatMap_source_glue (c : Char) (tokens : List Token) :
    (glue c tokens).flatMap source = c :: tokens.flatMap source := by
  unfold glue
  split <;> rfl

theorem glue_append {tokens more : List Token} (c : Char) (h : ∀ cs, .text cs ∉ more.head?) :
    glue c (tokens ++ more) = glue c tokens ++ more := by
  cases tokens with
  | nil =>
    cases more with
    | nil => rfl
    | cons token more =>
      cases token with
      | text cs => exact absurd rfl (h cs)
      | _ => rfl
  | cons token tokens => cases token <;> rfl

/-- A character at which no mark begins is text. -/
theorem scan_cons {c : Char} (hat : ¬ c = '@') (harrow : ∀ rest, c = '=' → ¬ cs = '>' :: rest) :
    scan (c :: cs) = glue c (scan cs) := scan.eq_4 c cs hat harrow

/-- The tokens of a text spell it. -/
theorem flatMap_source_scan (cs : List Char) : (scan cs).flatMap source = cs := by
  induction cs using scan.induct with
  | case1 => rfl
  | case2 rest ih => rw [scan, List.flatMap_cons, ih]; rfl
  | case3 rest ih => rw [scan, List.flatMap_cons, ih]; rfl
  | case4 c rest hat harrow _ _ _ ih => rw [scan_cons hat harrow, flatMap_source_glue, ih]
  | case5 c rest hat harrow _ ih => rw [scan_cons hat harrow, flatMap_source_glue, ih]

/-- A text is scanned up to a mark, and then from there on: a mark never begins before another one and ends behind it. -/
theorem scan_append (hmark : ∀ cs, .text cs ∉ (scan more).head?) (hhead : '>' ∉ more.head?) (front : List Char) :
    scan (front ++ more) = scan front ++ scan more := by
  have hcons : ∀ (c : Char) (rest : List Char), ¬ c = '@' → (∀ r, c = '=' → ¬ rest = '>' :: r) →
      scan (rest ++ more) = scan rest ++ scan more → scan (c :: rest ++ more) = scan (c :: rest) ++ scan more := by
    intro c rest hat harrow ih
    have harrow' : ∀ r, c = '=' → ¬ rest ++ more = '>' :: r := by
      rintro r hc hr
      cases rest with
      | nil => exact hhead (by rw [List.nil_append] at hr; rw [hr]; rfl)
      | cons d rest => exact harrow rest hc (by rw [(List.cons.inj hr).1])
    rw [List.cons_append, scan_cons hat harrow', scan_cons hat harrow, ih, glue_append c hmark]
  induction front using scan.induct with
  | case1 => rfl
  | case2 rest ih => rw [List.cons_append, scan, scan, ih, List.cons_append]
  | case3 rest ih => rw [List.cons_append, List.cons_append, scan, scan, ih, List.cons_append]
  | case4 c rest hat harrow _ _ _ ih => exact hcons c rest hat harrow ih
  | case5 c rest hat harrow _ ih => exact hcons c rest hat harrow ih

theorem scan_append_marked (front : List Char) (rest : Option (List Char)) :
    scan (front ++ marked '@' rest) = scan front ++ marked .functionMark (rest.map scan) := by
  cases rest with
  | none => simp [marked]
  | some back =>
    have hmark : ∀ cs, .text cs ∉ (scan ('@' :: back)).head? := by simp [scan]
    exact scan_append hmark (by simp) front

theorem scan_append_arrowed (front : List Char) (template : Option (List Char)) :
    scan (front ++ arrowed template) = scan front ++ marked .templateMark (template.map scan) := by
  cases template with
  | none => simp [marked, arrowed]
  | some back =>
    have hmark : ∀ cs, .text cs ∉ (scan ('=' :: '>' :: back)).head? := by simp [scan]
    exact scan_append hmark (by simp) front

theorem functionMark_mem_scan : .functionMark ∈ scan cs ↔ '@' ∈ cs := by
  constructor
  · intro h
    rw [← flatMap_source_scan cs]
    exact List.mem_flatMap.2 ⟨_, h, List.mem_cons_self⟩
  · intro h
    obtain ⟨front, back, rfl⟩ := List.append_of_mem h
    have hscan := scan_append_marked front (some back)
    rw [marked] at hscan
    rw [hscan]
    simp [marked]

theorem templateMark_mem_scan : .templateMark ∈ scan cs ↔ ['=', '>'] <:+: cs := by
  constructor
  · intro h
    obtain ⟨tokens, more, htokens⟩ := List.append_of_mem h
    refine ⟨tokens.flatMap source, more.flatMap source, ?_⟩
    rw [← flatMap_source_scan cs, htokens, List.flatMap_append, List.flatMap_cons, List.append_assoc]
    rfl
  · rintro ⟨front, back, rfl⟩
    have hscan := scan_append_arrowed front (some back)
    rw [arrowed] at hscan
    rw [List.append_assoc, List.cons_append, List.cons_append, List.nil_append, hscan]
    simp [marked]

theorem cutAt_functionMark (h : '@' ∉ front) (rest : Option (List Char)) :
    cutAt [.functionMark] (scan (front ++ marked '@' rest)) = rest.map fun back => (scan front, scan back) := by
  rw [scan_append_marked, cutAt_marked (mt functionMark_mem_scan.1 h), Option.map_map]
  rfl

theorem cutAt_templateMark (h : ¬ ['=', '>'] <:+: front) (template : Option (List Char)) :
    cutAt [.templateMark] (scan (front ++ arrowed template)) = template.map fun back => (scan front, scan back) := by
  rw [scan_append_arrowed, cutAt_marked (mt templateMark_mem_scan.1 h), Option.map_map]
  rfl

theorem partOf_scan (cs : List Char) : partOf (scan cs) = part cs := by
  rw [partOf, flatMap_source_scan]

/-! ### Bytes -/

/-- A text as a token, unless it is empty. -/
def plain : List Char → List Token
  | [] => []
  | cs => [.text cs]

theorem foldr_glue {tokens : List Token} (h : ∀ cs, .text cs ∉ tokens.head?) (cs : List Char) :
    cs.foldr glue tokens = plain cs ++ tokens := by
  induction cs with
  | nil => rfl
  | cons c cs ih =>
    rw [List.foldr_cons, ih]
    cases cs with
    | cons d cs => rfl
    | nil => exact @glue_append [] tokens c h

end Token

namespace Span

variable {start i : Nat} {bs : Bytes}

/-- Bytes of which none can begin a mark are passed over. -/
theorem scan_append (h : ∀ b ∈ bs, b ≠ 0x40 ∧ b ≠ 0x3D) (start i : Nat) (more : Bytes) :
    scan start i (bs ++ more) = scan start (i + bs.length) more := by
  induction bs generalizing i with
  | nil => rfl
  | cons b bs ih =>
    obtain ⟨hat, harrow⟩ := h b List.mem_cons_self
    rw [List.cons_append, scan.eq_4 _ _ _ _ hat fun _ hb => absurd hb harrow, ih fun b hb => h b (List.mem_cons_of_mem _ hb),
      List.length_cons, Nat.add_right_comm, Nat.add_assoc]

/-- The bytes of a character at which no mark begins are passed over together. -/
theorem scan_utf8_cons {c : Char} (hat : ¬ c = '@') (harrow : ∀ rest, c = '=' → ¬ cs = '>' :: rest) (start i : Nat) :
    scan start i (utf8 (c :: cs)) = scan start (i + (utf8 [c]).length) (utf8 cs) := by
  by_cases hc : c = '='
  · subst hc
    -- the next byte is no `>`, for that would be the next character
    have hnext : ∀ rest, ¬ utf8 cs = 0x3E :: rest := by
      intro rest hrest
      cases cs with
      | nil => cases hrest
      | cons d cs =>
        obtain ⟨b, tail, hb⟩ := List.exists_cons_of_length_pos (l := String.utf8EncodeChar d) (by simp [d.utf8Size_pos])
        rw [utf8, List.flatMap_cons, hb, List.cons_append, List.cons.injEq] at hrest
        have hd : d = '>' := eq_of_mem_utf8EncodeChar (by decide) (by rw [hb, hrest.1]; exact List.mem_cons_self)
        exact harrow cs rfl (by rw [hd])
    have hcons : utf8 ('=' :: cs) = 0x3D :: utf8 cs := rfl
    rw [hcons, scan.eq_4 _ _ _ _ (by decide) fun rest _ => hnext rest]
    rfl
  · have hplain : ∀ b ∈ utf8 [c], b ≠ 0x40 ∧ b ≠ 0x3D := by
      intro b hb
      rw [utf8, List.flatMap_cons, List.flatMap_nil, List.append_nil] at hb
      constructor
      · rintro rfl
        exact hat (eq_of_mem_utf8EncodeChar (by decide) hb)
      · rintro rfl
        exact hc (eq_of_mem_utf8EncodeChar (by decide) hb)
    rw [← scan_append hplain, ← utf8_append, List.singleton_append]

section Reading

variable {rest : List Char}

/-- The text between two places, read. -/
theorem mapM_token?_between (front pending rest : List Char) :
    (between (utf8 front).length (utf8 (front ++ pending)).length).mapM (token? (front ++ (pending ++ rest))) =
      some (Token.plain pending) := by
  have hslice := slice?_append front pending rest
  cases pending with
  | nil => simp [between, Token.plain]
  | cons c pending =>
    have hlt : (utf8 front).length < (utf8 (front ++ c :: pending)).length := by
      have hpos : 0 < c.utf8Size := c.utf8Size_pos
      rw [utf8_append, List.length_append, length_utf8_cons]
      omega
    rw [between, if_pos hlt, List.mapM_cons, token?, hslice]
    rfl

/-- The scan of the bytes of a text finds its tokens, wherever the text stands: `front` is closed by a mark or empty, and
`pending` is the text from there on. -/
def Found (rest : List Char) : Prop := ∀ front pending : List Char,
  (scan (utf8 front).length (utf8 (front ++ pending)).length (utf8 rest)).mapM (token? (front ++ (pending ++ rest))) =
    some (pending.foldr Token.glue (Token.scan rest))

theorem found_nil : Found [] := by
  intro front pending
  rw [utf8_nil, scan, mapM_token?_between, Token.scan, Token.foldr_glue (by simp), List.append_nil]

/-- A mark ends the text that stands before it, and the scan goes on behind it. -/
theorem Found.mark {span : Span} {token : Token} (mark : List Char) (h : Found rest)
    (hspan : ∀ cs, token? cs span = some token) (htoken : ∀ cs, token ≠ .text cs)
    (hscan : ∀ start i, scan start i (utf8 (mark ++ rest)) =
      between start i ++ span :: scan (i + (utf8 mark).length) (i + (utf8 mark).length) (utf8 rest))
    (hrest : Token.scan (mark ++ rest) = token :: Token.scan rest) : Found (mark ++ rest) := by
  intro front pending
  have hbehind := h (front ++ (pending ++ mark)) []
  have hlength : (utf8 (front ++ pending)).length + (utf8 mark).length = (utf8 (front ++ (pending ++ mark))).length := by
    rw [← List.append_assoc, utf8_append _ mark, List.length_append]
  rw [List.append_nil, List.nil_append, List.append_assoc, List.append_assoc, List.foldr_nil] at hbehind
  have hhead : ∀ cs, .text cs ∉ (token :: Token.scan rest).head? := fun cs h => htoken cs (Option.some.inj h)
  rw [hscan, hlength, List.mapM_append, mapM_token?_between, List.mapM_cons, hspan, hbehind, hrest,
    Token.foldr_glue hhead]
  rfl

/-- A character at which no mark begins is added to the text before it. -/
theorem Found.cons {c : Char} (h : Found rest) (hat : ¬ c = '@') (harrow : ∀ r, c = '=' → ¬ rest = '>' :: r) :
    Found (c :: rest) := by
  intro front pending
  have hbehind := h front (pending ++ [c])
  rw [List.foldr_append, List.foldr_cons, List.foldr_nil, ← Token.scan_cons hat harrow, List.append_assoc,
    List.singleton_append] at hbehind
  rw [scan_utf8_cons hat harrow, ← List.length_append, ← utf8_append, List.append_assoc]
  exact hbehind

theorem found (rest : List Char) : Found rest := by
  induction rest using Token.scan.induct with
  | case1 => exact found_nil
  | case2 rest ih => exact ih.mark ['@'] (fun _ => rfl) (by simp) (fun _ _ => rfl) (Token.scan.eq_2 rest)
  | case3 rest ih => exact ih.mark ['=', '>'] (fun _ => rfl) (by simp) (fun _ _ => rfl) (Token.scan.eq_3 rest)
  | case4 c rest hat harrow _ _ _ ih => exact ih.cons hat harrow
  | case5 c rest hat harrow _ ih => exact ih.cons hat harrow

end Reading
end Span

/-- The scan of the bytes finds the tokens of the text. -/
theorem Token.ofText?_eq (cs : List Char) : Token.ofText? cs = some (Token.scan cs) := Span.found cs [] []

theorem Span.exists_token?_of_mem {spans : List Span} {tokens : List Token} {span : Span}
    (h : spans.mapM (Span.token? cs) = some tokens) (hspan : span ∈ spans) : ∃ token, span.token? cs = some token := by
  induction spans generalizing tokens with
  | nil => cases hspan
  | cons first spans ih =>
    simp only [List.mapM_cons, Option.bind_eq_bind, Option.bind_eq_some_iff] at h
    obtain ⟨token, htoken, tokens, htokens, -⟩ := h
    rcases List.mem_cons.1 hspan with rfl | hspan
    · exact ⟨token, htoken⟩
    · exact ih htokens hspan

/-- A span that the scan finds begins and ends between characters. -/
theorem Span.ends_of_mem_scan {start stop : Nat} (h : .text start stop ∈ Span.scan 0 0 (utf8 cs)) :
    ∃ front middle back, cs = front ++ (middle ++ back) ∧ (utf8 front).length = start ∧
      (utf8 (front ++ middle)).length = stop := by
  obtain ⟨token, htoken⟩ := Span.exists_token?_of_mem (Token.ofText?_eq cs) h
  obtain ⟨middle, hmiddle, -⟩ := Option.map_eq_some_iff.1 htoken
  obtain ⟨front, back, hcut⟩ := slice?_eq_some_iff.1 hmiddle
  exact ⟨front, middle, back, hcut⟩

end EdgeWorker.Route
