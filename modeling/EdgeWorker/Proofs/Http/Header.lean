import EdgeWorker.Http.Header
import EdgeWorker.Proofs.Keyed
import EdgeWorker.Proofs.Text.Utf8

/-!
Headers by their fields and by the values of their names.

* `HeaderName.ofText?_text`, `HeaderValue.ofText?_of_text?` — names, and values that are texts, are read back from their
  texts;
* `Headers.ofFields_fields` — headers are put together again from their fields;
* `Headers.lookup_reverse_fields` — the last field of a name has the last of its values;
* `Headers.texts` — headers without the values that are no texts, by their names (`keys_texts`, `values_texts`) and by their
  fields (`fields_texts`).
-/

namespace EdgeWorker.Http

open EdgeWorker.Text

/-! ### Names and values -/

theorem isName_contentType : isName "content-type".toList = true := by decide +kernel

theorem HeaderName.ofText?_text (name : HeaderName) : HeaderName.ofText? name.text = some name := by
  obtain ⟨text, hvalid⟩ := name
  have hsmall : ∀ c ∈ text.toList, Ascii.toLower c = c := by
    intro c hc
    simp only [isName, Bool.and_eq_true, List.all_eq_true] at hvalid
    have hupper : Ascii.isUpper c = false := by simpa using (hvalid.2 c hc).2
    rw [Ascii.toLower, if_neg (by rw [hupper]; nofun)]
  have hlower : Ascii.lower text = text := by
    rw [Ascii.lower, List.map_congr_left hsmall, List.map_id', String.ofList_toList]
  simp only [ofText?, hlower, dif_pos hvalid]

theorem toNat_charOfNat : ∀ n < 128, (Char.ofNat n).toNat = n := by decide

/-- The bytes of printable ASCII are those of its text. -/
theorem bytes_of_printable {bytes : Bytes} (h : bytes.all isTextByte) :
    Text.bytes (String.ofList (bytes.map fun b => Char.ofNat b.toNat)) = bytes := by
  rw [Text.bytes, String.toList_ofList]
  induction bytes with
  | nil => rfl
  | cons b bytes ih =>
    rw [List.all_cons, Bool.and_eq_true] at h
    have hlt : b.toNat < 128 := by
      have hb := h.1
      simp only [isTextByte, Bool.or_eq_true, Bool.and_eq_true, decide_eq_true_eq, beq_iff_eq] at hb
      rcases hb with ⟨-, hb⟩ | rfl
      · exact Nat.lt_succ_of_lt (UInt8.lt_iff_toNat_lt.1 hb)
      · decide
    have hchar := toNat_charOfNat b.toNat hlt
    rw [List.map_cons, utf8, List.flatMap_cons, utf8EncodeChar_ascii (by omega), hchar, UInt8.ofNat_toNat]
    exact congrArg (b :: ·) (ih h.2)

theorem HeaderValue.bytes_of_text? {v : HeaderValue} {text : String} (h : v.text? = some text) : Text.bytes text = v.bytes := by
  unfold text? at h
  split at h
  · next hprintable =>
    cases h
    exact bytes_of_printable hprintable
  · cases h

theorem HeaderValue.ofText?_of_text? {v : HeaderValue} {text : String} (h : v.text? = some text) :
    HeaderValue.ofText? text = some v := by
  rw [ofText?, bytes_of_text? h, ofBytes?, dif_pos v.valid]

def HeaderValue.IsText (v : HeaderValue) : Prop := v.bytes.all isTextByte = true

instance (v : HeaderValue) : Decidable v.IsText := inferInstanceAs (Decidable (_ = true))

theorem HeaderValue.isSome_text? (v : HeaderValue) : v.text?.isSome ↔ v.IsText := by
  unfold text? IsText
  split <;> simp [*]

/-! ### Fields -/

def field? (name : String) (bytes : Bytes) : Option (HeaderName × HeaderValue) := do
  return (← HeaderName.ofText? name, ← HeaderValue.ofBytes? bytes)

/-- The values of a name that has these, or none at all. -/
def valuesOf : Option (HeaderValue × List HeaderValue) → List HeaderValue
  | some (first, more) => first :: more
  | none => []

def fieldsOf (es : List (HeaderName × HeaderValue × List HeaderValue)) : List (HeaderName × HeaderValue) :=
  es.flatMap fun e => (valuesOf (some e.2)).map fun v => (e.1, v)

namespace Headers

variable {name : HeaderName} {es : List (HeaderName × HeaderValue × List HeaderValue)}

def values (hs : Headers) (name : HeaderName) : List HeaderValue := valuesOf (hs.get? name)

theorem first?_eq_head? (hs : Headers) (name : HeaderName) : hs.first? name = (hs.values name).head? := by
  unfold first? values
  cases hs.get? name <;> rfl

theorem fieldsOf_cons (e : HeaderName × HeaderValue × List HeaderValue) :
    fieldsOf (e :: es) = ((valuesOf (some e.2)).map fun v => (e.1, v)) ++ fieldsOf es := List.flatMap_cons

/-- The fields of a name that is there last are put behind its values. -/
theorem entries_foldl_append {hs : Headers} {first : HeaderValue} {more : List HeaderValue}
    (he : hs.entries = es ++ [(name, first, more)]) (hn : name ∉ es.map Prod.fst) (vs : List HeaderValue) :
    (vs.foldl (fun hs v => hs.append name v) hs).entries = es ++ [(name, first, more ++ vs)] := by
  induction vs generalizing hs more with
  | nil => rw [List.foldl_nil, List.append_nil, he]
  | cons v vs ih =>
    have hnext : (hs.append name v).entries = es ++ [(name, first, more ++ [v])] := by
      show Keyed.alterEntries name _ hs.entries = _
      rw [he, Keyed.alterEntries_append hn, Keyed.alterEntries, if_pos rfl]
    rw [List.foldl_cons, ih hnext, List.append_assoc, List.singleton_append]

/-- The fields of names that are not there yet are added as they are. -/
theorem entries_foldl_fieldsOf {es' : List (HeaderName × HeaderValue × List HeaderValue)} {hs : Headers}
    (hs' : hs.entries = es') (h : ((es' ++ es).map Prod.fst).Nodup) :
    ((fieldsOf es).foldl (fun hs field => hs.append field.1 field.2) hs).entries = es' ++ es := by
  induction es generalizing es' hs with
  | nil => exact hs'.trans (List.append_nil es').symm
  | cons e es ih =>
    obtain ⟨name, first, more⟩ := e
    have hn : name ∉ es'.map Prod.fst := by
      rw [List.map_append, List.map_cons, List.nodup_append] at h
      exact fun hm => h.2.2 name hm name List.mem_cons_self rfl
    have hfirst : (hs.append name first).entries = es' ++ [(name, first, [])] := by
      show Keyed.alterEntries name _ hs.entries = _
      rw [hs', ← List.append_nil es', Keyed.alterEntries_append hn, List.append_nil]
      rfl
    rw [fieldsOf_cons, List.foldl_append]
    dsimp only [valuesOf]
    rw [List.map_cons, List.foldl_cons, List.foldl_map,
      ih (entries_foldl_append hfirst hn more) (by rwa [List.append_assoc]), List.append_assoc]
    rfl

/-- Headers are those of their fields. -/
theorem ofFields_fields (hs : Headers) : ofFields hs.fields = hs := by
  have hempty : (Keyed.empty : Headers).entries = [] := rfl
  exact Keyed.eq_of_entries (entries_foldl_fieldsOf hempty hs.distinct)

/-- The last field of a name has the last of its values. -/
theorem lookup_reverse_fields (hs : Headers) (name : HeaderName) :
    hs.fields.reverse.lookup name = (hs.values name).getLast? := by
  have hlast (vs : List HeaderValue) : (vs.map fun v => (name, v)).reverse.lookup name = vs.getLast? := by
    rw [← List.map_reverse, ← List.head?_reverse]
    cases vs.reverse with
    | nil => rfl
    | cons v vs => exact List.lookup_cons_self
  have hentries : ∀ es : List (HeaderName × HeaderValue × List HeaderValue), (es.map Prod.fst).Nodup →
      (fieldsOf es).reverse.lookup name = (valuesOf (es.lookup name)).getLast? := by
    intro es hes
    induction es with
    | nil => rfl
    | cons e es ih =>
      rw [List.map_cons, List.nodup_cons] at hes
      rw [fieldsOf_cons, List.reverse_append, List.lookup_append, ih hes.2, Keyed.lookup_cons_eq]
      by_cases hn : name = e.1
      · subst hn
        rw [Keyed.lookup_of_not_mem hes.1, if_pos rfl, hlast]
        rfl
      · have hother : ((valuesOf (some e.2)).map fun v => (e.1, v)).reverse.lookup name = none := by
          refine Keyed.lookup_of_not_mem fun hmem => ?_
          obtain ⟨field, hfield, rfl⟩ := List.mem_map.1 hmem
          obtain ⟨v, -, rfl⟩ := List.mem_map.1 (List.mem_reverse.1 hfield)
          exact hn rfl
        rw [if_neg hn, hother, Option.or_none]
  exact hentries hs.entries hs.distinct

/-! ### Texts -/

/-- The values of a name without those that are no texts, if any is left. -/
def textsOf? (vs : HeaderValue × List HeaderValue) : Option (HeaderValue × List HeaderValue) :=
  match (valuesOf (some vs)).filter (·.IsText) with
  | [] => none
  | v :: vs => some (v, vs)

theorem valuesOf_textsOf? (vs : HeaderValue × List HeaderValue) :
    valuesOf (textsOf? vs) = (valuesOf (some vs)).filter (·.IsText) := by
  unfold textsOf?
  cases (valuesOf (some vs)).filter (·.IsText) <;> rfl

/-- Headers without the values that are no texts; a name of which no value is left is gone. -/
def texts (hs : Headers) : Headers := hs.filterMap textsOf?

theorem values_texts (hs : Headers) (name : HeaderName) : hs.texts.values name = (hs.values name).filter (·.IsText) := by
  unfold values texts
  rw [Keyed.get?_filterMap]
  cases hs.get? name with
  | none => rfl
  | some vs => exact valuesOf_textsOf? vs

theorem keys_texts (hs : Headers) : hs.texts.keys = hs.keys.filter fun name => (hs.values name).any (·.IsText) := by
  have hsome (vs : HeaderValue × List HeaderValue) : (textsOf? vs).isSome = (valuesOf (some vs)).any (·.IsText) := by
    unfold textsOf?
    cases h : (valuesOf (some vs)).filter (·.IsText) with
    | nil => exact (List.any_eq_false.2 (List.filter_eq_nil_iff.1 h)).symm
    | cons v more =>
      have hv : v ∈ (valuesOf (some vs)).filter (·.IsText) := h ▸ List.mem_cons_self
      exact (List.any_eq_true.2 ⟨v, List.mem_filter.1 hv⟩).symm
  refine (Keyed.keys_filterMap hs).trans (List.filter_congr fun name _ => ?_)
  unfold values
  cases hs.get? name with
  | none => rfl
  | some vs => exact hsome vs

theorem fields_texts (hs : Headers) : hs.texts.fields = hs.fields.filter (·.2.IsText) := by
  have hvalues (name : HeaderName) (vs : HeaderValue × List HeaderValue) :
      (valuesOf (textsOf? vs)).map (fun v => (name, v)) =
        ((valuesOf (some vs)).map fun v => (name, v)).filter (·.2.IsText) := by
    rw [valuesOf_textsOf?, List.filter_map]
    rfl
  show fieldsOf (hs.entries.filterMap fun e => (textsOf? e.2).map (e.1, ·)) = (fieldsOf hs.entries).filter _
  induction hs.entries with
  | nil => rfl
  | cons e es ih =>
    rw [List.filterMap_cons, fieldsOf_cons, List.filter_append, ← hvalues, ← ih]
    cases textsOf? e.2 with
    | none => rfl
    | some vs => exact fieldsOf_cons _

end Headers
end EdgeWorker.Http
