/-
  Values up to the order of entries.

  * `Value.Contains v w`: `w` stands somewhere inside `v`, in sequences or mappings;
  * `Value.Reordered v w`: `w` is `v` with the entries of each mapping in some order, at every level
    and inside sequences too;
  * `Value.reordered_mapping_iff`: with distinct texts as keys this is asked key by key;
  * `Value.Reordered.merge`: merging does not see the order of entries;
  * `Value.reordered_of_leaf_iff`: mappings whose branches all end in leaves are told by the leaves.
-/
import MetricDocs.Proofs.Value.Merging

namespace MetricDocs.Value

/-- A value stands somewhere inside another one, or is that value. -/
inductive Contains : Value → Value → Prop
  | self (v : Value) : Contains v v
  | item {vs : List Value} {v w : Value} : v ∈ vs → Contains v w → Contains (.list vs) w
  | part {vs : List Value} {v w : Value} : v ∈ vs → Contains v w → Contains (.tuple vs) w
  | entry {fields : Fields} {e : Key × Value} {w : Value} :
      e ∈ fields → Contains e.2 w → Contains (.mapping fields) w

/-! ## The order of entries -/

mutual

/-- The values are the same up to the order of entries. -/
def Reordered : Value → Value → Prop
  | .list vs, w => ∃ ws, w = .list ws ∧ ReorderedAll vs ws
  | .tuple vs, w => ∃ ws, w = .tuple ws ∧ ReorderedAll vs ws
  | .mapping fields, w => ∃ fields' moved, w = .mapping fields' ∧
      fields'.Perm moved ∧ ReorderedFields fields moved
  | v, w => w = v

/-- The values are the same one by one up to the order of entries. -/
def ReorderedAll : List Value → List Value → Prop
  | [], ws => ws = []
  | v :: vs, ws => ∃ w rest, ws = w :: rest ∧ v.Reordered w ∧ ReorderedAll vs rest

/-- The keys are the same one by one, and the values are up to the order of entries. -/
def ReorderedFields : List (Key × Value) → List (Key × Value) → Prop
  | [], es => es = []
  | (k, v) :: fields, es => ∃ w rest, es = (k, w) :: rest ∧ v.Reordered w ∧
      ReorderedFields fields rest

end

section
variable {v w : Value} {vs ws : List Value} {fields fields' : Fields}

theorem reorderedAll_iff : ReorderedAll vs ws ↔ List.Forall₂ Reordered vs ws := by
  induction vs generalizing ws with
  | nil => rw [ReorderedAll, List.forall₂_nil_left_iff]
  | cons v vs ih =>
    rw [ReorderedAll, List.forall₂_cons_left_iff]
    constructor
    · rintro ⟨w, rest, rfl, hv, hvs⟩
      exact ⟨w, rest, hv, ih.1 hvs, rfl⟩
    · rintro ⟨w, rest, hv, hvs, rfl⟩
      exact ⟨w, rest, rfl, hv, ih.2 hvs⟩

theorem reorderedFields_iff : ReorderedFields fields fields' ↔
    List.Forall₂ (fun e e' => e'.1 = e.1 ∧ e.2.Reordered e'.2) fields fields' := by
  induction fields generalizing fields' with
  | nil => rw [ReorderedFields, List.forall₂_nil_left_iff]
  | cons e fields ih =>
    obtain ⟨k, v⟩ := e
    rw [ReorderedFields, List.forall₂_cons_left_iff]
    constructor
    · rintro ⟨w, rest, rfl, hv, hfields⟩
      exact ⟨(k, w), rest, ⟨rfl, hv⟩, ih.1 hfields, rfl⟩
    · rintro ⟨⟨l, w⟩, rest, ⟨rfl, hv⟩, hfields, rfl⟩
      exact ⟨w, rest, rfl, hv, ih.2 hfields⟩

theorem reordered_list_iff : (list vs).Reordered w ↔
    ∃ ws, w = .list ws ∧ List.Forall₂ Reordered vs ws := by
  simp only [Reordered, reorderedAll_iff]

theorem reordered_tuple_iff : (tuple vs).Reordered w ↔
    ∃ ws, w = .tuple ws ∧ List.Forall₂ Reordered vs ws := by
  simp only [Reordered, reorderedAll_iff]

theorem reordered_scalar_iff (h : v.isScalar = true) : v.Reordered w ↔ w = v := by
  cases v <;> first | exact Iff.rfl | cases h

theorem Reordered.refl (v : Value) : v.Reordered v := by
  induction v using inductionOn with
  | scalar v hv => exact (reordered_scalar_iff hv).2 rfl
  | list vs ih => exact reordered_list_iff.2 ⟨vs, rfl, List.forall₂_same.2 ih⟩
  | tuple vs ih => exact reordered_tuple_iff.2 ⟨vs, rfl, List.forall₂_same.2 ih⟩
  | mapping fields ih =>
    rw [Reordered]
    refine ⟨fields, fields, rfl, List.Perm.refl _, ?_⟩
    exact reorderedFields_iff.2 (List.forall₂_same.2 fun e he => ⟨rfl, ih e he⟩)

theorem Reordered.isMapping_eq (h : v.Reordered w) : w.isMapping = v.isMapping := by
  cases v with
  | list vs =>
    obtain ⟨ws, rfl, -⟩ := reordered_list_iff.1 h
    rfl
  | tuple vs =>
    obtain ⟨ws, rfl, -⟩ := reordered_tuple_iff.1 h
    rfl
  | mapping fields =>
    rw [Reordered] at h
    obtain ⟨fields', moved, rfl, -⟩ := h
    rfl
  | _ => rw [(reordered_scalar_iff rfl).1 h]

end

/-! ## Key by key -/

section
variable {P : Key → Prop} {L : Value → Prop} (hP : ∀ k, P k → k.IsText)
include hP

theorem Formed.get?_eq_some_iff {fields : Fields} (h : (mapping fields).Formed P L) {k : Key}
    {v : Value} : Fields.get? fields k = some v ↔ (k, v) ∈ fields := by
  rw [formed_mapping_iff] at h
  exact Fields.get?_eq_some_iff (fun e he => hP _ (h.2 e he).1) h.1

/-- **Mappings are reordered iff their values are, key by key**, if the keys are distinct texts. -/
theorem reordered_mapping_iff {fields fields' : Fields} (h : (mapping fields).Formed P L)
    (h' : (mapping fields').Formed P L) : (mapping fields).Reordered (mapping fields') ↔
      ∀ k, Option.Rel Reordered (Fields.get? fields k) (Fields.get? fields' k) := by
  have hnodup := (formed_mapping_iff.1 h).1
  have hnodup' := (formed_mapping_iff.1 h').1
  rw [Reordered]
  constructor
  · rintro ⟨_, moved, heq, hperm, hfields⟩ k
    cases heq
    have hkeys : ∀ e ∈ moved, e.1.IsText := fun e he =>
      hP _ ((formed_mapping_iff.1 h').2 e (hperm.mem_iff.2 he)).1
    rw [Fields.get?_perm hperm hkeys ((hperm.map _).nodup_iff.1 hnodup')]
    rw [reorderedFields_iff] at hfields
    clear h h' hnodup hnodup' hperm hkeys
    induction hfields with
    | nil => exact .none
    | @cons e e' fields moved he hfields ih =>
      obtain ⟨l, v⟩ := e
      obtain ⟨l', w⟩ := e'
      obtain ⟨rfl, hv⟩ := he
      rw [Fields.get?_cons, Fields.get?_cons]
      split_ifs
      · exact .some hv
      · exact ih
  · intro hrel
    -- the entries of the first mapping, each with the value of the second one
    refine ⟨fields', fields.map fun e => (e.1, (Fields.get? fields' e.1).getD e.2), rfl, ?_, ?_⟩
    · have hmapped : (fields.map fun e => (e.1, (Fields.get? fields' e.1).getD e.2)).Nodup := by
        refine List.Nodup.of_map Prod.fst ?_
        rwa [List.map_map]
      rw [List.perm_ext_iff_of_nodup (List.Nodup.of_map _ hnodup') hmapped]
      rintro ⟨k, w⟩
      rw [← h'.get?_eq_some_iff hP, List.mem_map]
      constructor
      · intro hw
        have hk := hrel k
        rw [hw] at hk
        obtain ⟨v, hv⟩ : ∃ v, Fields.get? fields k = some v := by
          cases hget : Fields.get? fields k with
          | none => rw [hget] at hk; cases hk
          | some v => exact ⟨v, rfl⟩
        exact ⟨(k, v), (h.get?_eq_some_iff hP).1 hv, by rw [hw]; rfl⟩
      · rintro ⟨⟨l, v⟩, hmem, heq⟩
        cases heq
        have hk := hrel l
        rw [(h.get?_eq_some_iff hP).2 hmem] at hk
        cases hget : Fields.get? fields' l with
        | none => rw [hget] at hk; cases hk
        | some w => rfl
    · rw [reorderedFields_iff, List.forall₂_map_right_iff, List.forall₂_same]
      rintro ⟨k, v⟩ hmem
      have hk := hrel k
      rw [(h.get?_eq_some_iff hP).2 hmem] at hk
      refine ⟨rfl, ?_⟩
      cases hget : Fields.get? fields' k with
      | none => rw [hget] at hk; cases hk
      | some w =>
        rw [hget] at hk
        cases hk with
        | some hv => exact hv

theorem Reordered.put {fields fields' : Fields} {k : Key} {v w : Value}
    (h : (mapping fields).Formed P L) (h' : (mapping fields').Formed P L) (hk : P k)
    (hv : v.Formed P L) (hw : w.Formed P L) (hfields : (mapping fields).Reordered (mapping fields'))
    (hvw : v.Reordered w) :
    (mapping (Fields.put fields k v)).Reordered (mapping (Fields.put fields' k w)) := by
  rw [reordered_mapping_iff hP h h'] at hfields
  rw [reordered_mapping_iff hP (h.put hP hk hv) (h'.put hP hk hw)]
  intro l
  by_cases hl : l = k
  · rw [hl, Fields.get?_put_self (hP k hk), Fields.get?_put_self (hP k hk)]
    exact .some hvw
  · rw [Fields.get?_put_of_ne (hP k hk) hl, Fields.get?_put_of_ne (hP k hk) hl]
    exact hfields l

/-! ## Merging -/

/-- **Laying one value over another does not see the order of entries.** -/
theorem Reordered.laidOn {v w : Value} {existing existing' : Option Value} (hv : v.Formed P L)
    (hw : w.Formed P L) (hlower : ∀ u, existing = some u → u.Formed P L)
    (hlower' : ∀ u, existing' = some u → u.Formed P L) (h : v.Reordered w)
    (hexisting : Option.Rel Reordered existing existing') :
    (v.laidOn existing).Reordered (w.laidOn existing') := by
  induction v using inductionOn generalizing w existing existing' with
  | scalar v hscalar =>
    rw [(reordered_scalar_iff hscalar).1 h]
    have hmapping := isMapping_of_isScalar hscalar
    rw [laidOn_eq_self (Or.inl hmapping), laidOn_eq_self (Or.inl hmapping)]
    exact .refl v
  | list vs _ =>
    rw [laidOn_eq_self (Or.inl rfl), laidOn_eq_self (Or.inl h.isMapping_eq)]
    exact h
  | tuple vs _ =>
    rw [laidOn_eq_self (Or.inl rfl), laidOn_eq_self (Or.inl h.isMapping_eq)]
    exact h
  | mapping upper ih =>
    obtain ⟨upper', rfl⟩ := isMapping_eq_true_iff.1 h.isMapping_eq
    -- there is a lower mapping on both sides or on neither
    by_cases hover : ∃ lower, existing = some (mapping lower)
    · obtain ⟨lower, rfl⟩ := hover
      obtain ⟨lower', rfl⟩ : ∃ lower', existing' = some (mapping lower') := by
        cases hexisting with
        | some hu =>
          obtain ⟨lower', rfl⟩ := isMapping_eq_true_iff.1 hu.isMapping_eq
          exact ⟨lower', rfl⟩
      have hbase := hlower _ rfl
      have hbase' := hlower' _ rfl
      cases hexisting with
      | some hu =>
        rw [laidOn_mapping, laidOn_mapping, reordered_mapping_iff hP
          (Formed.merge hP upper hbase hv.2) (Formed.merge hP upper' hbase' hw.2)]
        rw [reordered_mapping_iff hP hbase hbase'] at hu
        rw [reordered_mapping_iff hP hv hw] at h
        intro k
        rw [Fields.get?_merge_of_formed hP hv, Fields.get?_merge_of_formed hP hw]
        have hk := h k
        cases hget : Fields.get? upper k with
        | none =>
          rw [hget] at hk
          cases hget' : Fields.get? upper' k with
          | none => exact hu k
          | some w => rw [hget'] at hk; cases hk
        | some v =>
          rw [hget] at hk
          cases hget' : Fields.get? upper' k with
          | none => rw [hget'] at hk; cases hk
          | some w =>
            rw [hget'] at hk
            cases hk with
            | some hvw =>
              exact .some (ih (k, v) ((hv.get?_eq_some_iff hP).1 hget) (hv.get? hget)
                (hw.get? hget') (fun _ hx => hbase.get? hx) (fun _ hx => hbase'.get? hx) hvw (hu k))
    · have hover' : ¬ ∃ lower', existing' = some (mapping lower') := by
        rintro ⟨lower', rfl⟩
        cases hexisting with
        | @some u _ hu =>
          obtain ⟨lower, rfl⟩ := isMapping_eq_true_iff.1 (hu.isMapping_eq.symm.trans rfl)
          exact hover ⟨lower, rfl⟩
      rw [laidOn_eq_self (Or.inr hover), laidOn_eq_self (Or.inr hover')]
      exact h

/-- **Merging does not see the order of entries.** -/
theorem Reordered.merge {base base' upper upper' : Fields} (hbase : (mapping base).Formed P L)
    (hbase' : (mapping base').Formed P L) (hupper : (mapping upper).Formed P L)
    (hupper' : (mapping upper').Formed P L) (h : (mapping base).Reordered (mapping base'))
    (h' : (mapping upper).Reordered (mapping upper')) :
    (mapping (Fields.merge base upper)).Reordered (mapping (Fields.merge base' upper')) := by
  rw [← laidOn_mapping, ← laidOn_mapping]
  exact Reordered.laidOn hP hupper hupper' (fun _ hu => Option.some.inj hu ▸ hbase)
    (fun _ hu => Option.some.inj hu ▸ hbase') h' (.some h)

/-! ## Leaves -/

omit hP in
theorem exists_leaf_of_get? {fields : Fields} {k : Key} {u : Value}
    (hleads : ∀ ks inner, (mapping fields).at? ks = some (mapping inner) →
      ∃ ls x, (mapping fields).Leaf (ks ++ ls) x)
    (hu : Fields.get? fields k = some u) : ∃ ls x, (mapping fields).Leaf (k :: ls) x := by
  have hat : (mapping fields).at? [k] = some u := by
    rw [at?_mapping_cons, hu, Option.bind_some, at?_nil]
  cases hmapping : u.isMapping with
  | false => exact ⟨[], u, hat, hmapping⟩
  | true =>
    obtain ⟨inner, rfl⟩ := isMapping_eq_true_iff.1 hmapping
    exact hleads [k] inner hat

/-- **Values whose branches all end in leaves are told by their leaves**, up to the order of
    entries. -/
theorem reordered_of_leaf_iff {v w : Value} (hv : v.Formed P L) (hw : w.Formed P L)
    (hleads : ∀ ks inner, v.at? ks = some (mapping inner) → ∃ ls x, v.Leaf (ks ++ ls) x)
    (hleads' : ∀ ks inner, w.at? ks = some (mapping inner) → ∃ ls x, w.Leaf (ks ++ ls) x)
    (hleaf : ∀ ks x, v.Leaf ks x ↔ w.Leaf ks x) : v.Reordered w := by
  induction v using inductionOn generalizing w with
  | scalar v hscalar =>
    have hmapping := isMapping_of_isScalar hscalar
    obtain ⟨heq, -⟩ := leaf_nil_iff.1 ((hleaf [] v).1 ⟨at?_nil v, hmapping⟩)
    exact heq ▸ .refl v
  | list vs _ =>
    obtain ⟨heq, -⟩ := leaf_nil_iff.1 ((hleaf [] _).1 ⟨at?_nil (list vs), rfl⟩)
    exact heq ▸ .refl _
  | tuple vs _ =>
    obtain ⟨heq, -⟩ := leaf_nil_iff.1 ((hleaf [] _).1 ⟨at?_nil (tuple vs), rfl⟩)
    exact heq ▸ .refl _
  | mapping fields ih =>
    obtain ⟨fields', rfl⟩ : ∃ fields', w = mapping fields' := by
      rw [← isMapping_eq_true_iff, ← Bool.not_eq_false]
      intro hmapping
      obtain ⟨heq, -⟩ := leaf_nil_iff.1 ((hleaf [] w).2 ⟨at?_nil w, hmapping⟩)
      rw [heq] at hmapping
      cases hmapping
    rw [reordered_mapping_iff hP hv hw]
    intro k
    cases hget : Fields.get? fields k with
    | none =>
      cases hget' : Fields.get? fields' k with
      | none => exact .none
      | some u' =>
        -- a leaf below the key would be one of both
        obtain ⟨ls, x, hx⟩ := exists_leaf_of_get? hleads' hget'
        obtain ⟨u, hu, -⟩ := leaf_cons_iff.1 ((hleaf _ _).2 hx)
        rw [hget] at hu
        cases hu
    | some u =>
      obtain ⟨ls, x, hx⟩ := exists_leaf_of_get? hleads hget
      obtain ⟨u', hget', -⟩ := leaf_cons_iff.1 ((hleaf _ _).1 hx)
      rw [hget']
      have hbelow : ∀ ks y, (mapping fields).Leaf (k :: ks) y ↔ u.Leaf ks y := by
        intro ks y
        rw [leaf_cons_iff, hget]
        simp
      have hbelow' : ∀ ks y, (mapping fields').Leaf (k :: ks) y ↔ u'.Leaf ks y := by
        intro ks y
        rw [leaf_cons_iff, hget']
        simp
      refine .some (ih (k, u) ((hv.get?_eq_some_iff hP).1 hget) (hv.get? hget) (hw.get? hget')
        (fun ks inner hat => ?_) (fun ks inner hat => ?_) fun ks y => ?_)
      · obtain ⟨ls, y, hy⟩ := hleads (k :: ks) inner (by
          rw [at?_mapping_cons, hget, Option.bind_some, hat])
        exact ⟨ls, y, (hbelow _ _).1 hy⟩
      · obtain ⟨ls, y, hy⟩ := hleads' (k :: ks) inner (by
          rw [at?_mapping_cons, hget', Option.bind_some, hat])
        exact ⟨ls, y, (hbelow' _ _).1 hy⟩
      · rw [← hbelow, ← hbelow', hleaf]

end

end MetricDocs.Value
