import EdgeWorker.Proofs.Url.Reread

/-!
The hosts of the web as they are written.

* `Idna.Allowed` — texts without the characters that no domain holds; Punycode writes none of them (`allowed_encode`), so
  domains in ASCII are such texts (`allowed_toAscii`);
* `Hosted` — such a text, or digits and colons between brackets: every host of the web is one (`hosted_of_webHost`);
* `hosted_of_ofText` — an address of the web has such a host, and no port that its scheme has by itself;
* `Authority.place` — a host and its port, which are found again in it (`cutHost_place`).
-/

namespace EdgeWorker.Url

open EdgeWorker.Text

variable {cs ds host inner label domain digits rest : List Char} {c : Char} {scheme text : String} {p : Parts} {u : Url}

/-- What is true of all characters of a separator and of all parts is true of all characters of the parts joined by it. -/
theorem forall_mem_intercalate {P : Char → Prop} {parts : List (List Char)} (hcs : ∀ c ∈ cs, P c)
    (h : ∀ part ∈ parts, ∀ c ∈ part, P c) : ∀ c ∈ cs.intercalate parts, P c := by
  induction parts with
  | nil => exact nofun
  | cons part more ih =>
    rw [List.forall_mem_cons] at h
    cases more with
    | nil => simpa [List.intercalate] using h.1
    | cons part' more =>
      rw [List.intercalate_cons_cons, List.forall_mem_append, List.forall_mem_append]
      exact ⟨⟨h.1, hcs⟩, ih h.2⟩

/-! ### Domains in ASCII -/

namespace Punycode

variable {text : List Char} {basic value bias k q reached : Nat} {w : Writer} {values : List Nat}

theorem mem_writeDelta (h : c ∈ writeDelta bias k q) : ∃ d < 36, c = digitChar d := by
  fun_induction writeDelta bias k q with
  | case1 k q t hq =>
    have hle : t ≤ 26 := threshold_le k bias
    exact ⟨q, by omega, List.mem_singleton.1 h⟩
  | case2 k q t hq ih =>
    have hle : t ≤ 26 := threshold_le k bias
    rcases List.mem_cons.1 h with rfl | h
    · have hmod : (q - t) % (36 - t) < 36 - t := Nat.mod_lt _ (by omega)
      exact ⟨_, by omega, rfl⟩
    · exact ih h

theorem mem_writeValue (h : c ∈ (writeValue basic value w text).written) : c ∈ w.written ∨ ∃ d < 36, c = digitChar d := by
  fun_induction writeValue basic value w text with
  | case1 => exact .inl h
  | case2 w d rest hd ih => exact ih h
  | case3 w d rest hd hvalue ih =>
    rcases ih h with h | h
    · exact (List.mem_append.1 h).imp_right mem_writeDelta
    · exact .inr h
  | case4 w d rest hd hvalue ih => exact ih h

theorem mem_writeValues (h : c ∈ (writeValues basic text w reached values).written) :
    c ∈ w.written ∨ ∃ d < 36, c = digitChar d := by
  induction values generalizing w reached with
  | nil => exact .inl h
  | cons value more ih =>
    rcases ih h with h | h
    · exact (mem_writeValue h :)
    · exact .inr h

/-- The written form has characters of the text itself, a hyphen, and letters and digits. -/
theorem mem_encode (h : c ∈ encode text) : c ∈ text ∨ c = '-' ∨ ∃ d < 36, c = digitChar d := by
  unfold encode at h
  dsimp only at h
  rcases List.mem_append.1 h with h | h
  · split at h
    · cases h
    · rcases List.mem_append.1 h with h | h
      · exact .inl (List.mem_of_mem_filter h)
      · exact .inr (.inl (List.mem_singleton.1 h))
  · exact .inr (.inr ((mem_writeValues h).resolve_left nofun))

end Punycode

namespace Idna

/-- No character is one of those that no domain holds. -/
def Allowed (cs : List Char) : Prop := ∀ c ∈ cs, isForbidden c = false

-- character by character of the text, not over all characters
instance (cs : List Char) : Decidable (Allowed cs) := List.decidableBAll (fun c : Char => isForbidden c = false) cs

theorem Allowed.append (h : Allowed cs) (h' : Allowed ds) : Allowed (cs ++ ds) :=
  List.forall_mem_append.2 ⟨h, h'⟩

theorem allowed_of_any (h : ¬ cs.any isForbidden) : Allowed cs := by simpa [Allowed] using h

theorem allowed_encode (h : Allowed label) : Allowed (Punycode.encode label) := by
  intro c hc
  rcases Punycode.mem_encode hc with hc | rfl | ⟨d, hd, rfl⟩
  · exact h c hc
  · rfl
  · have hdigit : ∀ d < 36, isForbidden (Punycode.digitChar d) = false := by decide
    exact hdigit d hd

theorem allowed_labelToAscii (h : Allowed label) : Allowed (labelToAscii label) := by
  unfold labelToAscii
  split
  · exact h
  · exact Allowed.append (by decide) (allowed_encode h)

theorem allowed_toAscii {bytes : Bytes} (h : toAscii? bytes = some domain) : Allowed domain := by
  unfold toAscii? at h
  dsimp only at h
  repeat' split at h
  · cases h
  · cases h
  · next hfree _ =>
    cases h
    exact allowed_of_any hfree
  · cases h
  · cases h
  · next labels _ hlabels =>
    cases h
    refine forall_mem_intercalate (List.forall_mem_singleton.2 rfl) fun part hpart => ?_
    obtain ⟨label, hlabel, rfl⟩ := List.mem_map.1 hpart
    refine allowed_labelToAscii (allowed_of_any fun hany => hlabels ?_)
    rw [List.any_eq_true.2 ⟨label, hlabel, hany⟩, Bool.true_or]

end Idna

/-! ### Addresses in numbers -/

theorem allowed_toDigits {b : Nat} (hb : 1 < b) (hb' : b ≤ 16) (n : Nat) : Idna.Allowed (Nat.toDigits b n) := by
  have hdigit : ∀ d < 16, Idna.isForbidden (Nat.digitChar d) = false := by decide
  induction n using Nat.strongRecOn with
  | _ n ih =>
    rw [Nat.toDigits_eq_if hb]
    split
    · exact List.forall_mem_singleton.2 (hdigit n (by omega))
    · have hmod : n % b < b := Nat.mod_lt _ (by omega)
      refine (ih (n / b) (Nat.div_lt_self (by omega) hb)).append ?_
      exact List.forall_mem_singleton.2 (hdigit _ (by omega))

theorem allowed_writeIpv4 (n : Nat) : Idna.Allowed (writeIpv4 n) := by
  refine forall_mem_intercalate (List.forall_mem_singleton.2 rfl) fun part hpart => ?_
  obtain ⟨n, -, rfl⟩ := List.mem_map.1 hpart
  exact allowed_toDigits (by decide) (by decide) n

/-- What stands between the brackets of a host: digits and colons. -/
def Bracketed (cs : List Char) : Prop := ∀ c ∈ cs, c = ':' ∨ Idna.isForbidden c = false

theorem bracketed_writePieces (ps : List Nat) : Bracketed (writePieces ps) := by
  refine forall_mem_intercalate (List.forall_mem_singleton.2 (.inl rfl)) fun part hpart c hc => .inr ?_
  obtain ⟨p, -, rfl⟩ := List.mem_map.1 hpart
  exact allowed_toDigits (by decide) (by decide) p c hc

theorem bracketed_writeIpv6 (ps : List Nat) : Bracketed (writeIpv6 ps) := by
  unfold writeIpv6
  split
  · refine List.forall_mem_append.2 ⟨List.forall_mem_append.2 ⟨bracketed_writePieces _, ?_⟩, bracketed_writePieces _⟩
    exact fun c hc => .inl (by simpa using hc)
  · exact bracketed_writePieces _

/-! ### Hosts -/

/-- The hosts of the web as they are written: what a domain can hold, or what stands between brackets. -/
def Hosted (host : List Char) : Prop := Idna.Allowed host ∨ ∃ inner, host = '[' :: (inner ++ [']']) ∧ Bracketed inner

theorem hosted_of_webHost (h : webHost cs = .ok host) : Hosted host ∧ host ≠ [] := by
  unfold webHost bracketed at h
  repeat' split at h
  · next ps _ =>
    cases h
    exact ⟨.inr ⟨writeIpv6 ps, rfl, bracketed_writeIpv6 ps⟩, nofun⟩
  · cases h
  · cases h
  · cases h
  · cases h
  · next n _ =>
    cases h
    exact ⟨.inl (allowed_writeIpv4 n), by simp [writeIpv4, List.intercalate]⟩
  · cases h
  · next hempty _ _ hdomain _ =>
    cases h
    exact ⟨.inl (Idna.allowed_toAscii hdomain), fun he => by simp_all⟩

/-- The characters that stand in a host outside of brackets or within them. -/
theorem Hosted.not_forbidden (h : Hosted host) (hc : c ∈ host) : c = '[' ∨ c = ']' ∨ c = ':' ∨ Idna.isForbidden c = false := by
  rcases h with h | ⟨inner, rfl, h⟩
  · exact .inr (.inr (.inr (h c hc)))
  · simp only [List.mem_cons, List.mem_append, List.not_mem_nil, or_false] at hc
    rcases hc with rfl | hc | rfl
    · exact .inl rfl
    · exact .inr (.inr (h c hc))
    · exact .inr (.inl rfl)

/-! ### Addresses of the web -/

/-- The port of a scheme is left out. -/
theorem ne_of_portOf {port : Option Nat} {n : Nat} (h : portOf scheme digits = .ok port) (hn : n ∈ port) :
    defaultPort? scheme ≠ some n := by
  unfold portOf at h
  dsimp only at h
  split at h
  · cases h
  · split at h
    · cases h
      cases hn
    · next hport =>
      cases h
      cases hn
      exact fun he => hport (by simp [he])

theorem ne_of_cutPort {port : Option Nat} {n : Nat} (h : cutPort scheme cs = .ok (port, rest)) (hn : n ∈ port) :
    defaultPort? scheme ≠ some n := by
  unfold cutPort at h
  split at h
  · dsimp only at h
    split at h
    · cases h
    · next hport _ =>
      cases h
      exact ne_of_portOf hport hn
    · next hport _ =>
      cases h
      exact ne_of_portOf hport hn
    · cases h
  · cases h
    cases hn

theorem hosted_of_withAuthority (hweb : isWeb scheme) (h : withAuthority scheme p = .ok u) : ∃ a, u.authority = some a ∧
    Hosted a.host.toList ∧ a.host ≠ "" ∧ ∀ n ∈ a.port, defaultPort? scheme ≠ some n := by
  obtain ⟨place, host, port, rest, user, password, path, hplace, -, rfl⟩ := eq_of_withAuthority h
  unfold hostAndPort at hplace
  simp only [hweb, if_true] at hplace
  split at hplace
  · cases hplace
  · split at hplace
    · cases hplace
    · next hhost =>
      obtain ⟨hhosted, hne⟩ := hosted_of_webHost hhost
      split at hplace
      · cases hplace
      · next hport =>
        cases hplace
        refine ⟨_, rfl, ?_, ?_, fun n hn => ne_of_cutPort hport hn⟩
        · rwa [String.toList_ofList]
        · exact fun he => hne (by simpa using congrArg String.toList he)

/-- An address of the web, other than one of a file, has a host, and a port only where it is not that of its scheme. -/
theorem hosted_of_ofText (h : ofText text = .ok u) (hweb : isWeb u.scheme) (hfile : u.scheme ≠ "file") :
    ∃ a, u.authority = some a ∧ Hosted a.host.toList ∧ a.host ≠ "" ∧ ∀ n ∈ a.port, defaultPort? u.scheme ≠ some n := by
  unfold ofText read at h
  dsimp only at h
  split at h
  · next scheme rest _ =>
    obtain rfl := scheme_of_readAbsolute h
    unfold readAbsolute at h
    dsimp only [Option.filter] at h
    rw [if_neg (by simpa using hfile), if_pos hweb] at h
    exact hosted_of_withAuthority hweb h
  · cases h
  · next heq => cases heq

/-! ### Places -/

def Authority.place (a : Authority) : String := Authority.text ⟨"", none, a.host, a.port⟩

theorem Authority.toList_place (a : Authority) :
    a.place.toList = a.host.toList ++ marked ':' (a.port.map fun n => (toString n).toList) := by
  unfold place text
  cases a.port <;> simp [marked]

theorem cutHost_marked (part : Option (List Char)) : cutHost false (marked ':' part) = ([], marked ':' part) := by
  cases part <;> rfl

theorem cutHost_append (h : ∀ c ∈ host, c ≠ ':' ∧ c ≠ '[') : cutHost false (host ++ cs) =
    (host ++ (cutHost false cs).1, (cutHost false cs).2) := by
  induction host with
  | nil => rfl
  | cons c host ih =>
    obtain ⟨⟨hcolon, hopen⟩, h⟩ := List.forall_mem_cons.1 h
    simp [cutHost, hcolon, hopen, ih h]

theorem cutHost_inside (h : ']' ∉ inner) (cs : List Char) : cutHost true (inner ++ ']' :: cs) =
    (inner ++ ']' :: (cutHost false cs).1, (cutHost false cs).2) := by
  induction inner with
  | nil => simp [cutHost]
  | cons c inner ih =>
    rw [List.mem_cons, not_or] at h
    simp [cutHost, Ne.symm h.1, ih h.2]

/-- A host is cut off before its port. -/
theorem Hosted.cutHost_eq (h : Hosted host) (port : Option (List Char)) :
    cutHost false (host ++ marked ':' port) = (host, marked ':' port) := by
  rcases h with h | ⟨inner, rfl, h⟩
  · have hmarks : ∀ c ∈ host, c ≠ ':' ∧ c ≠ '[' := fun c hc => by
      constructor
      all_goals
        rintro rfl
        exact absurd (h _ hc) (by decide)
    rw [cutHost_append hmarks, cutHost_marked, List.append_nil]
  · have hclosed : ']' ∉ inner := fun hc => absurd (h _ hc) (by decide)
    have hinside := cutHost_inside hclosed (marked ':' port)
    rw [cutHost_marked] at hinside
    simp [cutHost, hinside]

theorem Authority.cutHost_place {a : Authority} (h : Hosted a.host.toList) : cutHost false a.place.toList =
    (a.host.toList, marked ':' (a.port.map fun n => (toString n).toList)) := by
  rw [toList_place, h.cutHost_eq]

/-- The characters of a place: there is no sign of a user in it, and nothing that ends it. -/
theorem Authority.not_forbidden {a : Authority} (h : Hosted a.host.toList) (hc : c ∈ a.place.toList) :
    c = '[' ∨ c = ']' ∨ c = ':' ∨ Idna.isForbidden c = false := by
  rw [toList_place, List.mem_append] at hc
  rcases hc with hc | hc
  · exact h.not_forbidden hc
  · cases hport : a.port with
    | none => simp [hport, marked] at hc
    | some n =>
      rw [hport] at hc
      rcases List.mem_cons.1 hc with rfl | hc
      · exact .inr (.inr (.inl rfl))
      · exact .inr (.inr (.inr (allowed_toDigits (b := 10) (by decide) (by decide) n c (by simpa using hc))))

theorem origin_eq {a : Authority} {n : Nat} (ha : u.authority = some a) (hn : defaultPort? u.scheme = some n) :
    u.origin = u.scheme ++ "://" ++ a.place := by
  simp [origin, ha, hn, Authority.place]

end EdgeWorker.Url
