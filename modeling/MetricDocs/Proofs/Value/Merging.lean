/-
  Laying one mapping over another.

  * `Value.laidOn_mapping` and `Value.laidOn_eq_self`: two mappings are merged, anything else is
    replaced;
  * `Value.Formed.merge`: merging keeps a form with texts as keys;
  * `Fields.get?_merge`: a key of the upper mapping has its value laid over the lower one's, any
    other key the lower one's value;
  * `Value.at?_laidOn`: what stands in the upper value is laid over what stands at the same place of
    the lower one;
  * `Value.at?_laidOn_of_leaf` and `Value.at?_laidOn_of_absent`: where nothing stands in the upper
    value, the lower one shows, unless a leaf of the upper one stands on the way;
  * `Value.leaf_merge` and `Value.leaf_of_merge`: the leaves of the upper mapping are leaves of the
    merge, and every leaf of the merge is one of the upper or of the lower mapping.
-/
import MetricDocs.Proofs.Value.Formed

namespace MetricDocs

namespace Value

/-! ## One value over another -/

theorem laidOn_mapping (overlay base : Fields) :
    (mapping overlay).laidOn (some (mapping base)) = mapping (Fields.merge base overlay) := by
  rw [laidOn]

theorem laidOn_eq_self {v : Value} {existing : Option Value}
    (h : v.isMapping = false ∨ ¬ ∃ base, existing = some (mapping base)) :
    v.laidOn existing = v := by
  cases v with
  | mapping overlay =>
    have hnot := h.resolve_left (by simp [isMapping])
    cases existing with
    | none => rw [laidOn]; simp
    | some w => cases w <;> first | exact absurd ⟨_, rfl⟩ hnot | (rw [laidOn]; simp)
  | _ => rw [laidOn]; simp

theorem laidOn_cases (v : Value) (existing : Option Value) :
    (∃ upper lower, v = mapping upper ∧ existing = some (mapping lower)) ∨
      v.laidOn existing = v := by
  by_cases h : ∃ upper lower, v = mapping upper ∧ existing = some (mapping lower)
  · exact Or.inl h
  · refine Or.inr (laidOn_eq_self ?_)
    cases hmapping : v.isMapping with
    | false => exact Or.inl rfl
    | true =>
      obtain ⟨upper, rfl⟩ := isMapping_eq_true_iff.1 hmapping
      exact Or.inr fun ⟨lower, hlower⟩ => h ⟨upper, lower, rfl, hlower⟩

/-! ## Forms -/

section
variable {P : Key → Prop} {L : Value → Prop}

mutual

theorem Formed.merge (hP : ∀ k, P k → k.IsText) : ∀ (overlay : List (Key × Value)) {base : Fields},
    (mapping base).Formed P L → FormedFields P L overlay →
      (mapping (Fields.merge base overlay)).Formed P L
  | [], _ => fun hbase _ => by
    rw [Fields.merge]
    exact hbase
  | (k, v) :: overlay, base => fun hbase h => by
    rw [Fields.merge]
    refine Formed.merge hP overlay (hbase.put hP h.1 ?_) h.2.2
    exact Formed.laidOn hP v (fun w hw => hbase.get? hw) h.2.1

theorem Formed.laidOn (hP : ∀ k, P k → k.IsText) : ∀ (v : Value) {existing : Option Value},
    (∀ w, existing = some w → w.Formed P L) → v.Formed P L → (v.laidOn existing).Formed P L
  | .mapping overlay, existing => fun hexisting h => by
    rcases laidOn_cases (.mapping overlay) existing with ⟨upper, lower, heq, rfl⟩ | hself
    · cases heq
      rw [laidOn_mapping]
      exact Formed.merge hP overlay (hexisting _ rfl) h.2
    · rw [hself]
      exact h
  | .list _, _ | .null, _ | .bool _, _ | .int _, _ | .float _, _ | .text _, _ | .surrogates _, _
  | .bytes _, _ | .date _, _ | .moment _, _ | .tuple _, _ | .set _, _ => fun _ h => by
    rw [laidOn_eq_self (Or.inl rfl)]
    exact h

end

end

end Value

/-! ## Key by key -/

/-- **A merge is read key by key.** -/
theorem Fields.get?_merge {overlay : Fields} (h : Distinct overlay) (base : Fields) (k : Key) :
    get? (merge base overlay) k = match get? overlay k with
      | some v => some (v.laidOn (get? base k))
      | none => get? base k := by
  induction overlay generalizing base with
  | nil =>
    rw [merge]
    rfl
  | cons e overlay ih =>
    obtain ⟨l, v⟩ := e
    obtain ⟨hl, h⟩ := List.pairwise_cons.1 h
    rw [merge, ih h]
    by_cases hk : l.same k = true
    · have hnone : get? overlay k = none := by
        refine get?_eq_none_iff_same.2 fun e he => ?_
        rw [← Bool.not_eq_true]
        intro hek
        have hle : l.same e.1 = true := Key.same_trans hk (Key.same_symm hek)
        exact Bool.false_ne_true ((hl e he).symm.trans hle)
      rw [hnone, get?_put_of_same hk, get?_cons, if_pos hk, get?_congr hk]
    · rw [get?_put_of_not_same (by rwa [Bool.not_eq_true] at hk), get?_cons, if_neg hk]

theorem Fields.get?_merge_of_formed {P : Key → Prop} {L : Value → Prop} {overlay : Fields}
    (hP : ∀ k, P k → k.IsText) (h : (Value.mapping overlay).Formed P L) (base : Fields) (k : Key) :
    get? (merge base overlay) k = match get? overlay k with
      | some v => some (v.laidOn (get? base k))
      | none => get? base k :=
  get?_merge (h.throughout_distinct hP).self base k

namespace Value

/-! ## At every sequence of keys -/

section
variable {u v w : Value} {existing : Option Value} {k : Key} {ks p : List Key}

theorem bind_at?_cons_eq_none (h : ¬ ∃ lower, existing = some (mapping lower)) (k : Key)
    (ks : List Key) : existing.bind (·.at? (k :: ks)) = none := by
  cases hbind : existing.bind (·.at? (k :: ks)) with
  | none => rfl
  | some v =>
    obtain ⟨w, rfl, hw⟩ := Option.bind_eq_some_iff.1 hbind
    obtain ⟨lower, rfl⟩ := exists_mapping_of_at? hw
    exact absurd ⟨lower, rfl⟩ h

theorem at?_laidOn_mapping_cons {upper lower : Fields}
    (h : (mapping upper).Throughout Fields.Distinct) (k : Key) (ks : List Key) :
    ((mapping upper).laidOn (some (mapping lower))).at? (k :: ks) =
      match Fields.get? upper k with
      | some w => (w.laidOn (Fields.get? lower k)).at? ks
      | none => (Fields.get? lower k).bind (·.at? ks) := by
  rw [laidOn_mapping, at?_mapping_cons, Fields.get?_merge h.self]
  cases Fields.get? upper k <;> rfl

/-- **What stands in the upper value** is laid over what stands there in the lower one. -/
theorem at?_laidOn (h : u.Throughout Fields.Distinct) (hv : u.at? ks = some v) :
    (u.laidOn existing).at? ks = some (v.laidOn (existing.bind (·.at? ks))) := by
  induction ks generalizing u existing with
  | nil =>
    rw [at?_nil, Option.some.injEq] at hv
    subst hv
    cases existing <;> simp
  | cons k ks ih =>
    obtain ⟨upper, rfl⟩ := exists_mapping_of_at? hv
    by_cases hexisting : ∃ lower, existing = some (mapping lower)
    · obtain ⟨lower, rfl⟩ := hexisting
      rw [at?_mapping_cons, Option.bind_eq_some_iff] at hv
      obtain ⟨w, hw, hv⟩ := hv
      rw [at?_laidOn_mapping_cons h, hw, Option.bind_some, at?_mapping_cons]
      exact ih (h.get? hw) hv
    · rw [laidOn_eq_self (.inr hexisting), hv, bind_at?_cons_eq_none hexisting,
        laidOn_eq_self (.inr (by simp))]

theorem Throughout.leaf_laidOn (h : u.Throughout Fields.Distinct) (hw : u.Leaf p w) :
    (u.laidOn existing).Leaf p w := by
  refine ⟨?_, hw.2⟩
  rw [at?_laidOn h hw.1, laidOn_eq_self (.inl hw.2)]

/-- **Nothing stands below a leaf of the upper value.** -/
theorem at?_laidOn_of_leaf (h : u.Throughout Fields.Distinct) (hp : p <+: ks) (hne : p ≠ ks)
    (hw : u.Leaf p w) : (u.laidOn existing).at? ks = none := by
  have hleaf : (u.laidOn existing).Leaf p w := h.leaf_laidOn hw
  obtain ⟨ls, rfl⟩ := hp
  cases hat : (u.laidOn existing).at? (p ++ ls) with
  | none => rfl
  | some v =>
    rw [hleaf.eq_nil hat, List.append_nil] at hne
    exact absurd rfl hne

/-- **Where nothing stands in the upper value**, and no leaf of it on the way, the lower one
    shows. -/
theorem at?_laidOn_of_absent (h : u.Throughout Fields.Distinct) (hks : u.at? ks = none)
    (hfree : ∀ p w, p <+: ks → p ≠ ks → ¬ u.Leaf p w) :
    (u.laidOn existing).at? ks = existing.bind (·.at? ks) := by
  induction ks generalizing u existing with
  | nil =>
    rw [at?_nil] at hks
    cases hks
  | cons k ks ih =>
    -- anything but a mapping would be a leaf on the way
    have hmapping : ∃ upper, u = mapping upper := by
      rw [← isMapping_eq_true_iff]
      by_contra hu
      exact hfree [] u List.nil_prefix (List.cons_ne_nil _ _).symm
        ⟨at?_nil u, by rwa [Bool.not_eq_true] at hu⟩
    obtain ⟨upper, rfl⟩ := hmapping
    by_cases hexisting : ∃ lower, existing = some (mapping lower)
    · obtain ⟨lower, rfl⟩ := hexisting
      rw [at?_laidOn_mapping_cons h, Option.bind_some, at?_mapping_cons]
      cases hw : Fields.get? upper k with
      | none => rfl
      | some w =>
        rw [at?_mapping_cons, hw, Option.bind_some] at hks
        refine ih (h.get? hw) hks fun p v hp hne hv => ?_
        exact hfree (k :: p) v ((List.prefix_cons_inj k).2 hp) (fun h' => hne (List.cons.inj h').2)
          (leaf_cons_iff.2 ⟨w, hw, hv⟩)
    · rw [laidOn_eq_self (.inr hexisting), hks, bind_at?_cons_eq_none hexisting]

end

/-! ## Leaves -/

section
variable {P : Key → Prop} {L : Value → Prop} {overlay base : Fields} {v : Value} {ks : List Key}
variable (hP : ∀ k, P k → k.IsText) (h : (mapping overlay).Formed P L)
include hP h

/-- **The leaves of the upper mapping are leaves of the merge.** -/
theorem leaf_merge (hv : (mapping overlay).Leaf ks v) :
    (mapping (Fields.merge base overlay)).Leaf ks v := by
  rw [← laidOn_mapping]
  exact (h.throughout_distinct hP).leaf_laidOn hv

/-- **Every leaf of a merge is one of the upper or of the lower mapping.** -/
theorem leaf_of_merge (hv : (mapping (Fields.merge base overlay)).Leaf ks v) :
    (mapping overlay).Leaf ks v ∨ (mapping base).Leaf ks v := by
  have hd := h.throughout_distinct hP
  rw [← laidOn_mapping] at hv
  cases hks : (mapping overlay).at? ks with
  | some w =>
    -- what stands in both as a mapping is one in the merge
    rw [Leaf, at?_laidOn hd hks, Option.some.injEq] at hv
    rcases laidOn_cases w ((some (mapping base)).bind (·.at? ks)) with
      ⟨upper, lower, rfl, hlower⟩ | hself
    · rw [hlower, laidOn_mapping] at hv
      rw [← hv.1] at hv
      cases hv.2
    · rw [hself] at hv
      exact .inl ⟨hks.trans (congrArg some hv.1), hv.2⟩
  | none =>
    by_cases hfree : ∀ p w, p <+: ks → p ≠ ks → ¬ (mapping overlay).Leaf p w
    · rw [Leaf, at?_laidOn_of_absent hd hks hfree, Option.bind_some] at hv
      exact .inr hv
    · push Not at hfree
      obtain ⟨p, w, hp, hne, hw⟩ := hfree
      rw [Leaf, at?_laidOn_of_leaf hd hp hne hw] at hv
      cases hv.1

end

end Value

end MetricDocs
