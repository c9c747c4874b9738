/-
  What a document makes of a value.

  * `Fields.lastOfEach`: of equal texts as keys the last value counts, at the place of the first,
    and `ofList_eq_lastOfEach`: that is what putting entries one after another comes to;
  * `Key.jsonText` is the text of a key;
  * `Value.asJson`: tuples become lists, and keys become their texts;
  * `reread_eq_asJson`: this is what is read back where a value was written that nothing in it
    offends.
-/
import MetricDocs.Proofs.Json.Offences

namespace MetricDocs

/-! ## Equal keys -/

namespace Fields

/-- Entries with texts as keys: of equal texts the last value counts, at the place of the first. -/
def lastOfEach (es : List (String × Value)) : Fields :=
  (es.map Prod.fst).eraseDups.filterMap fun s => (es.reverse.lookup s).map fun v => (.text s, v)

theorem ofList_concat (es : List (Key × Value)) (e : Key × Value) :
    ofList (es ++ [e]) = put (ofList es) e.1 e.2 := by
  simp [ofList]

section
variable (es : List (String × Value))

theorem keys_ofList_text : (ofList (es.map fun e => (.text e.1, e.2))).map Prod.fst =
    (es.map Prod.fst).eraseDups.map Key.text := by
  induction es using List.reverseRecOn with
  | nil => rfl
  | append_singleton es e ih =>
    have htext : (Key.text e.1).IsText := Key.isText_text e.1
    have hmem : Key.text e.1 ∈ (ofList (es.map fun e => (.text e.1, e.2))).map Prod.fst ↔
        e.1 ∈ es.map Prod.fst := by
      rw [ih, List.mem_map_of_injective fun _ _ h => Key.text.inj h, List.mem_eraseDups]
    rw [List.map_append, List.map_append, List.map_singleton, ofList_concat, List.eraseDups_append]
    by_cases he : e.1 ∈ es.map Prod.fst
    · have hnone : [e.1].removeAll (es.map Prod.fst) = [] := by simpa [List.removeAll] using he
      rw [keys_put_of_mem htext _ (hmem.2 he), ih]
      simp [hnone]
    · have hself : [e.1].removeAll (es.map Prod.fst) = [e.1] := by simpa [List.removeAll] using he
      rw [put_of_notMem htext _ (mt hmem.1 he), List.map_append, ih]
      simp [hself, List.eraseDups_cons]

theorem nodup_keys_ofList_text :
    ((ofList (es.map fun e => (.text e.1, e.2))).map Prod.fst).Nodup := by
  induction es using List.reverseRecOn with
  | nil => exact List.nodup_nil
  | append_singleton es e ih =>
    rw [List.map_append, List.map_singleton, ofList_concat]
    exact nodup_keys_put (Key.isText_text e.1) ih

theorem get?_ofList_text (s : String) :
    get? (ofList (es.map fun e => (.text e.1, e.2))) (.text s) = es.reverse.lookup s := by
  induction es using List.reverseRecOn with
  | nil => rfl
  | append_singleton es e ih =>
    rw [List.map_append, List.map_singleton, ofList_concat, get?_put, ih, List.reverse_concat,
      List.lookup_cons]
    by_cases he : e.1 = s
    · simp [he]
    · simp [he, beq_false_of_ne (Ne.symm he)]

theorem get?_filterMap_text (f : String → Option Value) (texts : List String) (s : String) :
    get? (texts.filterMap fun t => (f t).map fun v => (.text t, v)) (.text s) =
      if s ∈ texts then f s else none := by
  induction texts with
  | nil => rfl
  | cons t texts ih =>
    rw [List.filterMap_cons]
    by_cases ht : t = s
    · subst ht
      cases hf : f t with
      | none => simp [ih, hf]
      | some v => simp [get?_cons_self]
    · cases hf : f t with
      | none => simp [ih, Ne.symm ht]
      | some v => simp [get?_cons_of_ne, ih, Ne.symm ht]

theorem keys_lastOfEach :
    (lastOfEach es).map Prod.fst = (es.map Prod.fst).eraseDups.map Key.text := by
  rw [lastOfEach, List.map_filterMap, ← List.filterMap_eq_map (f := Key.text)]
  refine List.filterMap_congr fun s hs => ?_
  obtain ⟨e, he, rfl⟩ := List.mem_map.1 (List.mem_eraseDups.1 hs)
  have hsome : (es.reverse.lookup e.1).isSome = true :=
    List.lookup_isSome_iff.2 ⟨e, List.mem_reverse.2 he, beq_self_eq_true e.1⟩
  obtain ⟨v, hv⟩ := Option.isSome_iff_exists.1 hsome
  rw [hv]
  rfl

/-- **Entries put one after another** leave the last value of each text at the place where the text
    came first. -/
theorem ofList_eq_lastOfEach : ofList (es.map fun e => (.text e.1, e.2)) = lastOfEach es := by
  have hkeys := keys_ofList_text es
  have htexts : ∀ e ∈ ofList (es.map fun e => (.text e.1, e.2)),
      ∃ s ∈ (es.map Prod.fst).eraseDups, Key.text s = e.1 := by
    intro e he
    have hkey := List.mem_map_of_mem (f := Prod.fst) he
    rw [hkeys] at hkey
    exact List.mem_map.1 hkey
  refine (eq_of_get?_eq ?_ (fun e he => ?_) (nodup_keys_ofList_text es) fun e he => ?_).symm
  · rw [keys_lastOfEach, hkeys]
  · obtain ⟨s, -, hs⟩ := htexts e he
    rw [← hs]
    exact Key.isText_text s
  · obtain ⟨s, hmem, hs⟩ := htexts e he
    rw [← hs, get?_ofList_text, lastOfEach, get?_filterMap_text, if_pos hmem]

end

end Fields

/-! ## Keys and values -/

/-- The text of a key in a document; other keys have none. -/
def Key.jsonText : Key → String
  | .text s => s
  | .int n => Decimal.intText n
  | .float x => Decimal.floatText x
  | .bool true => "true"
  | .bool false => "false"
  | .null => "null"
  | _ => ""

mutual

/-- A value with its tuples turned into lists and its keys into their texts. -/
def Value.asJson : Value → Value
  | .list vs => .list (Value.asJsonAll vs)
  | .tuple vs => .list (Value.asJsonAll vs)
  | .mapping fields => .mapping (Fields.lastOfEach (Value.asJsonFields fields))
  | v => v

/-- The same for values one by one. -/
def Value.asJsonAll : List Value → List Value
  | [] => []
  | v :: vs => v.asJson :: Value.asJsonAll vs

/-- The same for entries one by one. -/
def Value.asJsonFields : List (Key × Value) → List (String × Value)
  | [] => []
  | (k, v) :: fields => (k.jsonText, v.asJson) :: Value.asJsonFields fields

end

namespace Json

/-- A part of a tree that can be written and read back. -/
def Sound (p : Part) : Prop := p.Ordinary ∧ p.offence? = none

theorem refusal?_eq_none_iff {α : Type} {x : Except Failure α} :
    refusal? x = none ↔ ∃ a, x = .ok a := by
  cases x <;> simp

theorem floatLiteral_eq_ok {x : Float} {text : List Char} (h : floatLiteral x = .ok text) :
    text = Decimal.Layout.plain.render x := by
  rw [floatLiteral] at h
  split at h <;> cases h
  rfl

theorem rereadKey_of_keyText {k : Key} {s : String} (h : keyText k = .ok s) :
    rereadKey k = .text s := by
  cases k with
  | surrogates ps => cases h
  | _ => simp [rereadKey, h]

theorem rereadKey_eq_jsonText {k : Key} (h : Sound (.key k)) : rereadKey k = .text k.jsonText := by
  cases k with
  | int n =>
    obtain ⟨text, htext⟩ := refusal?_eq_none_iff.1 (refusal?_intLiteral h.1)
    refine rereadKey_of_keyText ?_
    rw [keyText, htext, (intLiteral_eq_ok htext).2]
    rfl
  | float x =>
    obtain ⟨text, htext⟩ := refusal?_eq_none_iff.1 ((refusal?_floatLiteral x).trans h.2)
    refine rereadKey_of_keyText ?_
    rw [keyText, htext, floatLiteral_eq_ok htext]
    rfl
  | bool b => cases b <;> rfl
  | surrogates ps => exact h.1.elim
  | null | text s => rfl
  | _ => cases h.2

section
variable {st : Style}

theorem rereadAll_eq_asJsonAll {vs : List Value}
    (hitem : ∀ v ∈ vs, (∀ p ∈ v.parts, Sound p) → reread st v = v.asJson)
    (h : ∀ p ∈ Value.partsAll vs, Sound p) : rereadAll st vs = Value.asJsonAll vs := by
  induction vs with
  | nil => rfl
  | cons v vs ih =>
    obtain ⟨hv, hvs⟩ := List.forall_mem_append.1 h
    obtain ⟨hfirst, hrest⟩ := List.forall_mem_cons.1 hitem
    rw [rereadAll, Value.asJsonAll, hfirst hv, ih hrest hvs]

theorem map_reread_eq_asJsonFields {fields : List (Key × Value)}
    (hvalue : ∀ e ∈ fields, (∀ p ∈ e.2.parts, Sound p) → reread st e.2 = e.2.asJson)
    (h : ∀ p ∈ Value.partsFields fields, Sound p) :
    (fields.map fun e => (rereadKey e.1, reread st e.2)) =
      (Value.asJsonFields fields).map fun e => (.text e.1, e.2) := by
  induction fields with
  | nil => rfl
  | cons e fields ih =>
    obtain ⟨k, v⟩ := e
    obtain ⟨hentry, hfields⟩ := List.forall_mem_append.1 h
    obtain ⟨hk, hv⟩ := List.forall_mem_cons.1 hentry
    obtain ⟨hfirst, hrest⟩ := List.forall_mem_cons.1 hvalue
    rw [List.map_cons, Value.asJsonFields, List.map_cons, rereadKey_eq_jsonText hk, hfirst hv,
      ih hrest hfields]

/-- **What is read back of sound parts** is the value as documents have it. -/
theorem reread_eq_asJson (hst : st.sorted = false) {v : Value} (h : ∀ p ∈ v.parts, Sound p) :
    reread st v = v.asJson := by
  induction v using Value.inductionOn with
  | scalar v hv =>
    rw [Value.parts_scalar hv] at h
    obtain ⟨hordinary, -⟩ := h _ (List.mem_singleton_self _)
    cases v with
    | surrogates ps => exact hordinary.elim
    | list vs | tuple vs | mapping fields => cases hv
    | _ => rfl
  | list vs ih =>
    rw [reread, Value.asJson, rereadAll_eq_asJsonAll ih (List.forall_mem_cons.1 h).2]
  | tuple vs ih =>
    rw [reread, Value.asJson, rereadAll_eq_asJsonAll ih (List.forall_mem_cons.1 h).2]
  | mapping fields ih =>
    rw [reread_mapping_eq, arranged_of_unsorted hst, Value.asJson,
      map_reread_eq_asJsonFields ih (List.forall_mem_cons.1 h).2, Fields.ofList_eq_lastOfEach]

end

end Json

end MetricDocs
