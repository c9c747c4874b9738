/-
  The order of entries in a document.

  A document is written with its entries sorted, at every level.  So its text does not see in which
  order they stood, and what is read off it has them in ascending order:

  * `Key.Before k l`: both are texts and `k` comes first by code points;
  * `pairwise_arranged` and `arranged_eq_of_perm`: sorted entries stand in this order, whatever
    order they had before;
  * `encode_reordered`: values that are the same up to the order of entries have the same text;
  * `Stable v`: a leaf that is read back as itself, and `stable_reread`: every leaf that was read
    back is one;
  * `reordered_reread`, `ascending_reread` and `encode_reread`: what is read off a document is what
    was written up to the order of entries, its keys ascend, and in this order its text is that of
    the document;
  * `reread_reordered`: reading back does not see the order of entries if no two keys of a mapping
    have the same text.
-/
import MetricDocs.Proofs.Json.Settled
import MetricDocs.Proofs.Value.Reordered

namespace MetricDocs

/-- Both keys are texts, and the first comes first by code points. -/
def Key.Before (k l : Key) : Prop :=
  ∃ ps qs, k.points? = some ps ∧ l.points? = some qs ∧ ps < qs

namespace Json

open Value (Reordered Contains)

/-! ## Sorted entries -/

theorem eq_of_points {k l : Key} (hk : SettledKey k) (hl : SettledKey l)
    (h : k.points? = l.points?) : k = l := by
  have hclash : ∀ (s : String) (ps : List ℕ), SettledKey (.surrogates ps) →
      s.toList.map Char.toNat ≠ ps := by
    rintro s _ ⟨-, hread⟩ rfl
    rw [rereadKey, respelled, Text.Escaped.ofPoints] at hread
    split_ifs at hread with hany
    · rw [Key.ofEscaped, Key.surrogates.injEq] at hread
      rw [hread, List.any_map, List.any_eq_true] at hany
      obtain ⟨c, -, hc⟩ := hany
      rw [Function.comp_apply, Text.isSurrogate_toNat] at hc
      cases hc
    · cases hread
  cases k with
  | text s =>
    cases l with
    | text t =>
      rw [Key.points?, Key.points?, Option.some.injEq] at h
      have hinjective : Function.Injective Char.toNat := fun _ _ => Char.toNat_inj.1
      rw [String.toList_injective (List.map_injective_iff.2 hinjective h)]
    | surrogates qs => exact absurd (Option.some.inj h) (hclash s qs hl)
    | _ => cases hl.1
  | surrogates ps =>
    cases l with
    | text t => exact absurd (Option.some.inj h).symm (hclash t ps hk)
    | surrogates qs => rw [Option.some.inj h]
    | _ => cases hl.1
  | _ => cases hk.1

section
variable {st : Style} (hst : st.sorted = true) {α : Type} {es es' : List (Key × α)}
include hst

theorem pairwise_arranged (hkeys : ∀ e ∈ es, SettledKey e.1) (hnodup : (es.map Prod.fst).Nodup) :
    (arranged st es).Pairwise fun e e' => e.1.Before e'.1 := by
  have hpoints : ∀ e ∈ es, ∃ ps, e.1.points? = some ps := fun e he =>
    Option.isSome_iff_exists.1 (hkeys e he).1
  -- the order of texts as a linear order, which `textLe` is on these entries
  have hsort : es.mergeSort textLe = es.mergeSort fun e e' =>
      decide (e.1.points?.getD [] ≤ e'.1.points?.getD []) := by
    have hmap := @List.map_mergeSort _ _ textLe (fun e e' : Key × α =>
      decide (e.1.points?.getD [] ≤ e'.1.points?.getD [])) id es
    rw [List.map_id, List.map_id] at hmap
    refine hmap fun e he e' he' => ?_
    obtain ⟨ps, hps⟩ := hpoints e he
    obtain ⟨qs, hqs⟩ := hpoints e' he'
    rw [textLe, id, id, hps, hqs]
    simp only [Option.getD_some]
    rw [← decide_not, decide_eq_decide]
    exact not_lt
  have hle := @List.pairwise_mergeSort _ (fun e e' : Key × α =>
      decide (e.1.points?.getD [] ≤ e'.1.points?.getD []))
    (fun _ _ _ h h' => decide_eq_true (le_trans (of_decide_eq_true h) (of_decide_eq_true h')))
    (fun _ _ => by simpa using le_total _ _) es
  rw [arranged, if_pos hst]
  have hdistinct : (es.mergeSort textLe).Pairwise fun e e' => e.1 ≠ e'.1 :=
    List.pairwise_map.1 (((List.mergeSort_perm es textLe).map _).nodup_iff.2 hnodup)
  rw [← hsort] at hle
  refine (hle.and hdistinct).imp_of_mem fun {e e'} he he' h => ?_
  have he := List.mem_mergeSort.1 he
  have he' := List.mem_mergeSort.1 he'
  obtain ⟨ps, hps⟩ := hpoints e he
  obtain ⟨qs, hqs⟩ := hpoints e' he'
  have hle : ps ≤ qs := by simpa [hps, hqs] using h.1
  refine ⟨ps, qs, hps, hqs, lt_of_le_of_ne hle ?_⟩
  rintro rfl
  exact h.2 (eq_of_points (hkeys e he) (hkeys e' he') (hps.trans hqs.symm))

/-- **Sorting does not see the order of entries.** -/
theorem arranged_eq_of_perm (hkeys : ∀ e ∈ es, SettledKey e.1) (hnodup : (es.map Prod.fst).Nodup)
    (h : es'.Perm es) : arranged st es' = arranged st es := by
  have hkeys' : ∀ e ∈ es', SettledKey e.1 := fun e he => hkeys e (h.mem_iff.1 he)
  have hnodup' : (es'.map Prod.fst).Nodup := (h.map _).nodup_iff.2 hnodup
  refine List.Perm.eq_of_pairwise (fun e e' _ _ hlt hgt => ?_)
    (pairwise_arranged hst hkeys' hnodup') (pairwise_arranged hst hkeys hnodup)
    ((perm_arranged es').trans (h.trans (perm_arranged es).symm))
  obtain ⟨ps, qs, hps, hqs, hlt⟩ := hlt
  obtain ⟨qs', ps', hqs', hps', hgt⟩ := hgt
  cases hps.symm.trans hps'
  cases hqs.symm.trans hqs'
  exact absurd hgt (lt_asymm hlt)

end

/-! ## The text of a document -/

section
variable {st st' : Style} {L : Value → Prop}

theorem encodeAll_congr {vs ws : List Value}
    (h : List.Forall₂ (fun v w => encode st v = encode st' w) vs ws) :
    encodeAll st vs = encodeAll st' ws := by
  induction h with
  | nil => rfl
  | cons hv _ ih => rw [encodeAll, encodeAll, hv, ih]

theorem map_encode_congr {fields fields' : Fields}
    (h : List.Forall₂ (fun e e' => e'.1 = e.1 ∧ encode st e.2 = encode st' e'.2) fields fields') :
    (fields.map fun e => (e.1, encode st e.2)) = fields'.map fun e => (e.1, encode st' e.2) := by
  rw [← List.forall₂_eq_eq_eq, List.forall₂_map_left_iff, List.forall₂_map_right_iff]
  exact h.imp fun e e' he => by rw [he.1, he.2]

/-- **The text of a document does not see the order of entries.** -/
theorem encode_reordered (hst : st.sorted = true) (hL : ∀ vs, ¬ L (.tuple vs)) {v w : Value}
    (hv : v.Formed SettledKey L) (hw : w.Formed SettledKey L) (h : v.Reordered w) :
    encode st v = encode st w := by
  induction v using Value.inductionOn generalizing w with
  | scalar v hscalar => rw [(Value.reordered_scalar_iff hscalar).1 h]
  | list vs ih =>
    obtain ⟨ws, rfl, hws⟩ := Value.reordered_list_iff.1 h
    rw [encode, encode]
    refine congrArg _ (encodeAll_congr (List.forall₂_iff_zip.2 ⟨hws.length_eq, fun hmem => ?_⟩))
    obtain ⟨hvs, hws'⟩ := List.of_mem_zip hmem
    exact ih _ hvs (Value.formedAll_iff.1 hv _ hvs) (Value.formedAll_iff.1 hw _ hws')
      ((List.forall₂_iff_zip.1 hws).2 hmem)
  | tuple vs _ => exact absurd hv (hL vs)
  | mapping fields ih =>
    rw [Value.Reordered] at h
    obtain ⟨fields', moved, rfl, hperm, hfields⟩ := h
    obtain ⟨-, hv⟩ := Value.formed_mapping_iff.1 hv
    obtain ⟨hnodup, hw⟩ := Value.formed_mapping_iff.1 hw
    have hfields := List.forall₂_iff_zip.1 (Value.reorderedFields_iff.1 hfields)
    -- the order is undone by sorting; the values have equal texts by induction
    have hmoved : arranged st fields' = arranged st moved :=
      arranged_eq_of_perm hst (fun e he => (hw e (hperm.mem_iff.2 he)).1)
        ((hperm.map _).nodup_iff.1 hnodup) hperm
    have htexts : (fields.map fun e => (e.1, encode st e.2)) =
        moved.map fun e => (e.1, encode st e.2) := by
      refine map_encode_congr (List.forall₂_iff_zip.2 ⟨hfields.1, fun hmem => ?_⟩)
      obtain ⟨he, he'⟩ := List.of_mem_zip hmem
      obtain ⟨hkey, hvalue⟩ := hfields.2 hmem
      exact ⟨hkey, ih _ he (hv _ he).2 (hw _ (hperm.mem_iff.2 he')).2 hvalue⟩
    rw [encode_mapping fun _ e he => (hv e he).1.1, encode_mapping fun _ e he => (hw e he).1.1,
      hmoved, ← arranged_map, ← arranged_map, htexts]

/-! ## What is read off a document -/

/-- A leaf that can be written, is no tuple, and is read back as itself. -/
def Stable (v : Value) : Prop := Plain v ∧ ∀ st, reread st v = v

theorem not_stable_tuple (vs : List Value) : ¬ Stable (.tuple vs) := fun h => h.1.2 vs rfl

theorem stable_text (s : String) : Stable (.text s) := ⟨plain_text s, fun _ => rfl⟩

theorem stable_reread {v : Value} {text : List Char} (hv : v.isScalar = true)
    (h : encode st v = .ok text) : Stable (reread st v) := by
  refine ⟨plain_reread hv h, fun st' => ?_⟩
  cases v with
  | surrogates ps =>
    rw [reread]
    cases hps : respelled ps with
    | string s => rfl
    | surrogates qs => rw [Value.ofEscaped, reread, respelled_of_respelled hps, Value.ofEscaped]
  | _ => first | rfl | cases hv

/-- The style that keeps entries in their order. -/
def Style.inOrder (st : Style) : Style := { st with sorted := false }

theorem arranged_of_unsorted {α : Type} (hst : st.sorted = false) (es : List (Key × α)) :
    arranged st es = es := by
  rw [arranged, if_neg (by simp [hst])]

/-- **What is read off a document is what was written**, up to the order of entries. -/
theorem reordered_reread {v : Value} (hv : v.Formed SettledKey Stable) :
    v.Reordered (reread st v) := by
  induction v using Value.inductionOn with
  | scalar v hscalar =>
    rw [((Value.formed_scalar_iff hscalar).1 hv).2]
    exact .refl v
  | list vs ih =>
    rw [reread, rereadAll_eq, Value.reordered_list_iff]
    refine ⟨_, rfl, List.forall₂_map_right_iff.2 (List.forall₂_same.2 fun v hmem => ?_)⟩
    exact ih v hmem (Value.formedAll_iff.1 hv v hmem)
  | tuple vs _ => exact absurd hv (not_stable_tuple vs)
  | mapping fields ih =>
    rw [reread_mapping hv, Value.Reordered]
    refine ⟨_, fields.map fun e => (e.1, reread st e.2), rfl, (perm_arranged fields).map _, ?_⟩
    rw [Value.reorderedFields_iff, List.forall₂_map_right_iff, List.forall₂_same]
    exact fun e he => ⟨rfl, ih e he ((Value.formed_mapping_iff.1 hv).2 e he).2⟩

/-- **What is read off a sorted document** has its keys in ascending order, in every mapping. -/
theorem ascending_reread (hst : st.sorted = true) (hL : ∀ vs, ¬ L (.tuple vs)) {v : Value}
    (hv : v.Formed SettledKey L) {inner : Fields} (h : (reread st v).Contains (.mapping inner)) :
    inner.Pairwise fun e e' => e.1.Before e'.1 := by
  induction v using Value.inductionOn with
  | scalar v hscalar =>
    have hreread := @isScalar_reread st _ hscalar
    generalize reread st v = u at h hreread
    cases h <;> cases hreread
  | list vs ih =>
    rw [reread, rereadAll_eq] at h
    cases h with
    | item hread h =>
      obtain ⟨v, hmem, rfl⟩ := List.mem_map.1 hread
      exact ih v hmem (Value.formedAll_iff.1 hv v hmem) h
  | tuple vs _ => exact absurd hv (hL vs)
  | mapping fields ih =>
    obtain ⟨hnodup, hmem⟩ := Value.formed_mapping_iff.1 hv
    rw [reread_mapping hv] at h
    cases h with
    | self =>
      exact List.pairwise_map.2 (pairwise_arranged hst (fun e he => (hmem e he).1) hnodup)
    | entry hread h =>
      obtain ⟨e, he, rfl⟩ := List.mem_map.1 hread
      have he := mem_arranged.1 he
      exact ih e he (hmem e he).2 h

/-- **In the order in which it is read**, what is read off a document has the same text. -/
theorem encode_reread {v : Value} (hv : v.Formed SettledKey Stable) :
    encode st.inOrder (reread st v) = encode st v := by
  induction v using Value.inductionOn with
  | scalar v hscalar =>
    rw [((Value.formed_scalar_iff hscalar).1 hv).2]
    cases v <;> first | rfl | cases hscalar
  | list vs ih =>
    rw [reread, rereadAll_eq, encode, encode]
    refine congrArg _ (encodeAll_congr (List.forall₂_map_left_iff.2 (List.forall₂_same.2 ?_)))
    exact fun v hmem => ih v hmem (Value.formedAll_iff.1 hv v hmem)
  | tuple vs _ => exact absurd hv (not_stable_tuple vs)
  | mapping fields ih =>
    have hmem := (Value.formed_mapping_iff.1 hv).2
    have htexts : (((arranged st fields).map fun e => (e.1, reread st e.2)).map
        fun e => (e.1, encode st.inOrder e.2)) =
          (arranged st fields).map fun e => (e.1, encode st e.2) := by
      refine map_encode_congr (List.forall₂_map_left_iff.2 (List.forall₂_same.2 fun e he => ?_))
      have he := mem_arranged.1 he
      exact ⟨rfl, ih e he (hmem e he).2⟩
    rw [reread_mapping hv, encode_mapping (by intro h; cases h),
      @arranged_of_unsorted st.inOrder _ rfl, htexts,
      encode_mapping (fun _ e he => (hmem e he).1.1)]
    rfl

/-- **Reading back does not see the order of entries**, if no two keys of a mapping have the same
    text. -/
theorem reread_reordered (hst : st.sorted = false) {v w : Value} {text : List Char}
    (htext : encode st v = .ok text)
    (hkeys : ∀ inner, v.Contains (.mapping inner) → (inner.map fun e => rereadKey e.1).Nodup)
    (h : v.Reordered w) : (reread st v).Reordered (reread st w) := by
  have hsequence : ∀ {vs ws : List Value} {text : List Char},
      (∀ v ∈ vs, ∀ {w text}, encode st v = .ok text →
        (∀ inner, v.Contains (.mapping inner) → (inner.map fun e => rereadKey e.1).Nodup) →
        v.Reordered w → (reread st v).Reordered (reread st w)) →
      (encodeAll st vs).map (bracketed '[' ']' st.itemSeparator) = .ok text →
      (∀ v ∈ vs, ∀ inner, v.Contains (.mapping inner) →
        (inner.map fun e => rereadKey e.1).Nodup) →
      List.Forall₂ Reordered vs ws →
        (Value.list (rereadAll st vs)).Reordered (.list (rereadAll st ws)) := by
    intro vs ws text ih htext hkeys hws
    cases htexts : encodeAll st vs with
    | error e => rw [htexts] at htext; cases htext
    | ok texts =>
      rw [Value.reordered_list_iff, rereadAll_eq, rereadAll_eq]
      refine ⟨_, rfl, List.forall₂_map_left_iff.2 (List.forall₂_map_right_iff.2 ?_)⟩
      refine List.forall₂_iff_zip.2 ⟨hws.length_eq, fun hmem => ?_⟩
      obtain ⟨hvs, -⟩ := List.of_mem_zip hmem
      obtain ⟨text, htext⟩ := exists_of_encodeAll_eq_ok htexts _ hvs
      exact ih _ hvs htext (hkeys _ hvs) ((List.forall₂_iff_zip.1 hws).2 hmem)
  induction v using Value.inductionOn generalizing w text with
  | scalar v hscalar =>
    rw [(Value.reordered_scalar_iff hscalar).1 h]
    exact .refl _
  | list vs ih =>
    obtain ⟨ws, rfl, hws⟩ := Value.reordered_list_iff.1 h
    rw [encode] at htext
    exact hsequence ih htext (fun v hv inner h => hkeys inner (.item hv h)) hws
  | tuple vs ih =>
    obtain ⟨ws, rfl, hws⟩ := Value.reordered_tuple_iff.1 h
    rw [encode] at htext
    exact hsequence ih htext (fun v hv inner h => hkeys inner (.part hv h)) hws
  | mapping fields ih =>
    rw [Value.Reordered] at h
    obtain ⟨fields', moved, rfl, hperm, hfields⟩ := h
    have hwritten := exists_of_encode_mapping (by simp [hst]) htext
    have hfields := Value.reorderedFields_iff.1 hfields
    have hnodup := hkeys fields (.self _)
    -- the keys as they are read back, of all three lists of entries
    have hsame : moved.map (fun e => rereadKey e.1) = fields.map fun e => rereadKey e.1 := by
      rw [← List.forall₂_eq_eq_eq, List.forall₂_map_left_iff, List.forall₂_map_right_iff]
      exact hfields.flip.imp fun e e' he => by rw [he.1]
    have hread : ∀ es : List (Key × Value), (es.map fun e => rereadKey e.1).Perm
        (fields.map fun e => rereadKey e.1) →
          reread st (.mapping es) = .mapping (es.map fun e => (rereadKey e.1, reread st e.2)) := by
      intro es hes
      rw [reread_mapping_eq, arranged_of_unsorted hst, ofList_eq_self]
      · refine List.forall_mem_map.2 fun e he => ?_
        obtain ⟨e', he', heq⟩ := List.mem_map.1 (hes.mem_iff.1 (List.mem_map_of_mem he))
        obtain ⟨key, hkey⟩ := (hwritten e' he').1
        simp only
        rw [← heq]
        exact (settledKey_rereadKey hkey).1
      · rw [List.map_map]
        exact hes.nodup_iff.2 hnodup
    rw [hread fields (.refl _), hread fields' (hsame ▸ hperm.map _), Value.Reordered]
    refine ⟨_, moved.map fun e => (rereadKey e.1, reread st e.2), rfl, hperm.map _, ?_⟩
    rw [Value.reorderedFields_iff, List.forall₂_map_left_iff, List.forall₂_map_right_iff,
      List.forall₂_iff_zip]
    refine ⟨hfields.length_eq, fun {e e'} hmem => ?_⟩
    obtain ⟨he, -⟩ := List.of_mem_zip hmem
    obtain ⟨hkey, hvalue⟩ := (List.forall₂_iff_zip.1 hfields).2 hmem
    obtain ⟨value, htext⟩ := (hwritten e he).2
    refine ⟨by rw [hkey], ih e he htext (fun inner h => hkeys inner (.entry he h)) hvalue⟩

end

end Json

end MetricDocs
