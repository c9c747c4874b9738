/-
  Reading along sequences of keys.

  * `Key.IsText`: the key is a text, surrogates or not; such a key is the same only as itself;
  * `Fields.get?_put_self` and `Fields.get?_put_of_ne`: lookups after a write of a text key;
  * `Fields.keys_put_of_mem` and `Fields.put_of_notMem`: a write of a text key keeps the keys, or
    adds its own entry behind the others, so distinct keys stay distinct (`Fields.nodup_keys_put`);
  * `Fields.eq_of_get?_eq`: entries with the same keys and the same lookups are the same;
  * `Value.inductionOn`: induction on the items of sequences and the entries of mappings;
  * `Value.at?_append`: reading along two sequences one after the other;
  * `Value.Leaf root ks v`: along `ks` stands `v`, which is no mapping; a leaf has nothing below
    it (`Value.Leaf.eq_nil`);
  * `Value.Throughout P v`: every mapping that can be read inside `v` satisfies `P`.
-/
import MetricDocs.Proofs.Value.Sameness
import MetricDocs.Value.Nested

namespace MetricDocs

/-! ## Keys and entries -/

/-- The key is a text, surrogates or not. -/
def Key.IsText (k : Key) : Prop := k.points?.isSome = true

@[simp] theorem Key.isText_text (s : String) : (Key.text s).IsText := rfl

theorem Key.same_iff_of_isText {k : Key} (hk : k.IsText) (l : Key) :
    l.same k = true ↔ l = k := by
  cases k with
  | text s => cases l <;> simp [Key.same, Key.number?]
  | surrogates ps => cases l <;> simp [Key.same, Key.number?]
  | _ => cases hk

theorem Key.same_comm_of_isText {k : Key} (hk : k.IsText) (l : Key) :
    k.same l = true ↔ l = k := by
  cases k with
  | text s => cases l <;> simp [Key.same, Key.number?, eq_comm]
  | surrogates ps => cases l <;> simp [Key.same, Key.number?, eq_comm]
  | _ => cases hk

namespace Fields

variable {α : Type} {k : Key}

theorem get?_cons_self (hk : k.IsText) (v : α) (fields : List (Key × α)) :
    get? ((k, v) :: fields) k = some v := by
  rw [get?_cons, if_pos ((Key.same_iff_of_isText hk k).2 rfl)]

theorem get?_cons_of_ne {l : Key} (hl : l.IsText) (h : k ≠ l) (v : α) (fields : List (Key × α)) :
    get? ((l, v) :: fields) k = get? fields k := by
  rw [get?_cons, if_neg (by rwa [Key.same_comm_of_isText hl])]

theorem get?_put_self (hk : k.IsText) (v : α) (fields : List (Key × α)) :
    get? (put fields k v) k = some v :=
  get?_put_of_same ((Key.same_iff_of_isText hk k).2 rfl) v fields

theorem get?_put_of_ne {l : Key} (hk : k.IsText) (h : l ≠ k) (v : α) (fields : List (Key × α)) :
    get? (put fields k v) l = get? fields l := by
  refine get?_put_of_not_same ?_ v fields
  rwa [← Bool.not_eq_true, Key.same_comm_of_isText hk]

theorem get?_eq_none_iff (hk : k.IsText) {fields : List (Key × α)} :
    get? fields k = none ↔ k ∉ fields.map Prod.fst := by
  rw [get?_eq_none_iff_same, List.mem_map, not_exists]
  refine forall_congr' fun e => ?_
  rw [not_and, ← Bool.not_eq_true, Key.same_iff_of_isText hk]

theorem keys_put_of_mem (hk : k.IsText) (v : α) {fields : List (Key × α)}
    (h : k ∈ fields.map Prod.fst) : (put fields k v).map Prod.fst = fields.map Prod.fst := by
  cases hget : get? fields k with
  | none => exact absurd h ((get?_eq_none_iff hk).1 hget)
  | some w => exact keys_put_of_get? hget

theorem put_of_notMem (hk : k.IsText) (v : α) {fields : List (Key × α)}
    (h : k ∉ fields.map Prod.fst) : put fields k v = fields ++ [(k, v)] :=
  put_of_get?_eq_none ((get?_eq_none_iff hk).2 h)

theorem mem_keys_put (hk : k.IsText) {v : α} {fields : List (Key × α)} {l : Key} :
    l ∈ (put fields k v).map Prod.fst ↔ l ∈ fields.map Prod.fst ∨ k = l := by
  by_cases hmem : k ∈ fields.map Prod.fst
  · rw [keys_put_of_mem hk v hmem]
    exact ⟨.inl, fun h => h.elim id fun h => h ▸ hmem⟩
  · simp [put_of_notMem hk v hmem, eq_comm]

theorem nodup_keys_put (hk : k.IsText) {v : α} {fields : List (Key × α)}
    (h : (fields.map Prod.fst).Nodup) : ((put fields k v).map Prod.fst).Nodup := by
  by_cases hmem : k ∈ fields.map Prod.fst
  · rwa [keys_put_of_mem hk v hmem]
  · rw [put_of_notMem hk v hmem, List.map_append]
    exact h.append (List.nodup_singleton _) (by simpa using hmem)

theorem distinct_of_nodup {fields : Fields} (hkeys : ∀ e ∈ fields, e.1.IsText)
    (h : (fields.map Prod.fst).Nodup) : Distinct fields := by
  refine (List.pairwise_map.1 h).imp_of_mem fun {e f} _ hf hne => ?_
  rwa [← Bool.not_eq_true, Key.same_iff_of_isText (hkeys f hf)]

theorem mem_put (hk : k.IsText) {v : α} {fields : List (Key × α)} {e : Key × α}
    (h : e ∈ put fields k v) : e = (k, v) ∨ e ∈ fields := by
  induction fields with
  | nil => exact Or.inl (List.mem_singleton.1 h)
  | cons e' fields ih =>
    obtain ⟨l, w⟩ := e'
    rw [put] at h
    split_ifs at h with hl
    · rw [(Key.same_iff_of_isText hk l).1 hl] at h
      exact (List.mem_cons.1 h).imp_right (List.mem_cons_of_mem _)
    · rcases List.mem_cons.1 h with rfl | hmem
      · exact Or.inr List.mem_cons_self
      · exact (ih hmem).imp_right (List.mem_cons_of_mem _)

theorem mem_ofList {es : List (Key × Value)} (hkeys : ∀ e ∈ es, e.1.IsText) {e : Key × Value}
    (h : e ∈ ofList es) : e ∈ es := by
  induction es using List.reverseRecOn with
  | nil => exact h
  | append_singleton es e' ih =>
    obtain ⟨hkeys, hk⟩ := List.forall_mem_append.1 hkeys
    rw [ofList, List.foldl_append, ← ofList, List.foldl_cons, List.foldl_nil] at h
    rcases mem_put (hk e' (List.mem_singleton_self _)) h with rfl | h
    · exact List.mem_append_right _ (List.mem_singleton_self _)
    · exact List.mem_append_left _ (ih hkeys h)

theorem exists_mem_of_get? {fields : List (Key × α)} {v : α} (h : get? fields k = some v) :
    ∃ e ∈ fields, e.2 = v := by
  induction fields with
  | nil => cases h
  | cons e fields ih =>
    obtain ⟨l, w⟩ := e
    rw [get?_cons] at h
    split_ifs at h
    · cases h
      exact ⟨(l, v), List.mem_cons_self, rfl⟩
    · obtain ⟨e, he, rfl⟩ := ih h
      exact ⟨e, List.mem_cons_of_mem _ he, rfl⟩

theorem mem_of_get? {fields : List (Key × α)} (hkeys : ∀ e ∈ fields, e.1.IsText) {v : α}
    (h : get? fields k = some v) : (k, v) ∈ fields := by
  induction fields with
  | nil => cases h
  | cons e fields ih =>
    obtain ⟨l, w⟩ := e
    obtain ⟨hl, hkeys⟩ := List.forall_mem_cons.1 hkeys
    by_cases hk : k = l
    · subst hk
      rw [get?_cons_self hl, Option.some.injEq] at h
      exact h ▸ List.mem_cons_self
    · rw [get?_cons_of_ne hl hk] at h
      exact List.mem_cons_of_mem _ (ih hkeys h)

/-- **The values that are found are those of the entries**, if the keys are distinct texts. -/
theorem get?_eq_some_iff {fields : List (Key × α)} (hkeys : ∀ e ∈ fields, e.1.IsText)
    (hnodup : (fields.map Prod.fst).Nodup) {v : α} :
    get? fields k = some v ↔ (k, v) ∈ fields := by
  refine ⟨mem_of_get? hkeys, fun h => ?_⟩
  induction fields with
  | nil => cases h
  | cons e fields ih =>
    obtain ⟨l, w⟩ := e
    obtain ⟨hl, hkeys⟩ := List.forall_mem_cons.1 hkeys
    rw [List.map_cons, List.nodup_cons] at hnodup
    rcases List.mem_cons.1 h with heq | hmem
    · cases heq
      exact get?_cons_self hl v fields
    · have hk : k ≠ l := by
        rintro rfl
        exact hnodup.1 (List.mem_map.2 ⟨_, hmem, rfl⟩)
      rw [get?_cons_of_ne hl hk]
      exact ih hkeys hnodup.2 hmem

theorem get?_perm {fields fields' : List (Key × α)} (h : fields.Perm fields')
    (hkeys : ∀ e ∈ fields', e.1.IsText) (hnodup : (fields'.map Prod.fst).Nodup) (k : Key) :
    get? fields k = get? fields' k := by
  ext v
  rw [get?_eq_some_iff (fun e he => hkeys e (h.mem_iff.1 he)) ((h.map _).nodup_iff.2 hnodup),
    get?_eq_some_iff hkeys hnodup, h.mem_iff]

theorem eq_of_get?_eq {fields fields' : List (Key × α)}
    (hkeys : fields'.map Prod.fst = fields.map Prod.fst) (htexts : ∀ e ∈ fields, e.1.IsText)
    (hnodup : (fields.map Prod.fst).Nodup)
    (h : ∀ e ∈ fields, get? fields' e.1 = get? fields e.1) : fields' = fields := by
  induction fields generalizing fields' with
  | nil => exact List.map_eq_nil_iff.1 hkeys
  | cons e fields ih =>
    obtain ⟨k, v⟩ := e
    obtain _ | ⟨⟨k', v'⟩, fields'⟩ := fields'
    · cases hkeys
    · obtain ⟨hfirst, hrest⟩ := List.cons.inj hkeys
      obtain rfl : k' = k := hfirst
      obtain ⟨hk, htexts⟩ := List.forall_mem_cons.1 htexts
      obtain ⟨hnotMem, hnodup⟩ := List.nodup_cons.1 hnodup
      obtain ⟨hv, h⟩ := List.forall_mem_cons.1 h
      rw [get?_cons_self hk, get?_cons_self hk, Option.some.injEq] at hv
      rw [hv, ih hrest htexts hnodup fun e he => ?_]
      have hne : e.1 ≠ k' := fun heq => hnotMem (List.mem_map.2 ⟨e, he, heq⟩)
      have hget := h e he
      rwa [get?_cons_of_ne hk hne, get?_cons_of_ne hk hne] at hget

theorem get?_map {β : Type} (f : α → β) (fields : List (Key × α)) (k : Key) :
    get? (fields.map fun e => (e.1, f e.2)) k = (get? fields k).map f := by
  induction fields with
  | nil => rfl
  | cons e fields ih =>
    obtain ⟨l, w⟩ := e
    rw [List.map_cons, get?_cons, get?_cons, ih]
    split_ifs <;> rfl

end Fields

/-! ## Kinds of values -/

namespace Value

/-- Neither a sequence nor a mapping. -/
def isScalar : Value → Bool
  | .list _ | .tuple _ | .mapping _ => false
  | _ => true

/-- **Induction on values**: sequences from their items, mappings from the values of their
    entries. -/
theorem inductionOn {motive : Value → Prop} (scalar : ∀ v, v.isScalar = true → motive v)
    (list : ∀ vs, (∀ v ∈ vs, motive v) → motive (.list vs))
    (tuple : ∀ vs, (∀ v ∈ vs, motive v) → motive (.tuple vs))
    (mapping : ∀ fields : List (Key × Value), (∀ e ∈ fields, motive e.2) →
      motive (.mapping fields)) (v : Value) : motive v := by
  refine @Value.rec motive (fun vs => ∀ v ∈ vs, motive v) (fun fields => ∀ e ∈ fields, motive e.2)
    (fun e => motive e.2) (scalar _ rfl) (fun _ => scalar _ rfl) (fun _ => scalar _ rfl)
    (fun _ => scalar _ rfl) (fun _ => scalar _ rfl) (fun _ => scalar _ rfl) (fun _ => scalar _ rfl)
    (fun _ => scalar _ rfl) (fun _ => scalar _ rfl) list tuple (fun _ => scalar _ rfl) mapping
    ?_ ?_ ?_ ?_ ?_ v
  · exact fun _ h => nomatch h
  · exact fun _ _ hv hvs => List.forall_mem_cons.2 ⟨hv, hvs⟩
  · exact fun _ h => nomatch h
  · exact fun _ _ he hfields => List.forall_mem_cons.2 ⟨he, hfields⟩
  · exact fun _ _ hv => hv

/-- Whether a value is a mapping. -/
def isMapping : Value → Bool
  | .mapping _ => true
  | _ => false

theorem isMapping_eq_true_iff {v : Value} : v.isMapping = true ↔ ∃ fields, v = .mapping fields := by
  cases v <;> simp [isMapping]

/-- Whether a value is a given text. -/
def isText (s : String) : Value → Bool
  | .text t => t = s
  | _ => false

theorem isText_eq_true_iff {s : String} {v : Value} : v.isText s = true ↔ v = .text s := by
  cases v <;> simp [isText]

theorem isMapping_of_isScalar {v : Value} (h : v.isScalar = true) : v.isMapping = false := by
  cases v <;> first | rfl | cases h

/-! ## Reading -/

@[simp] theorem at?_nil (v : Value) : v.at? [] = some v := by
  cases v <;> rfl

@[simp] theorem at?_mapping_cons (fields : Fields) (k : Key) (ks : List Key) :
    (mapping fields).at? (k :: ks) = (Fields.get? fields k).bind (·.at? ks) := by
  rw [at?]
  cases Fields.get? fields k <;> rfl

theorem at?_cons_of_not_mapping {v : Value} (h : v.isMapping = false) (k : Key) (ks : List Key) :
    v.at? (k :: ks) = none := by
  cases v <;> first | rfl | cases h

theorem exists_mapping_of_at? {u v : Value} {k : Key} {ks : List Key}
    (h : u.at? (k :: ks) = some v) : ∃ fields, u = mapping fields := by
  rw [← isMapping_eq_true_iff]
  by_contra hu
  rw [at?_cons_of_not_mapping (by rwa [Bool.not_eq_true] at hu)] at h
  cases h

theorem at?_append (v : Value) (ks ls : List Key) :
    v.at? (ks ++ ls) = (v.at? ks).bind (·.at? ls) := by
  induction ks generalizing v with
  | nil => simp
  | cons k ks ih =>
    cases hv : v.isMapping with
    | false => simp [at?_cons_of_not_mapping hv]
    | true =>
      obtain ⟨fields, rfl⟩ := isMapping_eq_true_iff.1 hv
      rw [List.cons_append, at?_mapping_cons, at?_mapping_cons]
      cases Fields.get? fields k with
      | none => rfl
      | some w => exact ih w

/-- Along a sequence of keys stands a value that is no mapping. -/
def Leaf (root : Value) (ks : List Key) (v : Value) : Prop :=
  root.at? ks = some v ∧ v.isMapping = false

theorem Leaf.eq_nil {root v w : Value} {ks ls : List Key} (h : root.Leaf ks v)
    (h' : root.at? (ks ++ ls) = some w) : ls = [] := by
  cases ls with
  | nil => rfl
  | cons l ls => simp [at?_append, h.1, at?_cons_of_not_mapping h.2] at h'

/-! ## Everywhere inside -/

/-- Every mapping that can be read inside a value satisfies `P`. -/
def Throughout (P : Fields → Prop) (v : Value) : Prop :=
  ∀ ks fields, v.at? ks = some (.mapping fields) → P fields

section
variable {P : Fields → Prop} {v w : Value} {ks : List Key} {fields : Fields} {k : Key}

theorem Throughout.at? (h : v.Throughout P) (hw : v.at? ks = some w) : w.Throughout P := by
  intro ls fields hls
  refine h (ks ++ ls) fields ?_
  rw [at?_append, hw, Option.bind_some, hls]

theorem Throughout.get? (h : (mapping fields).Throughout P) (hw : Fields.get? fields k = some w) :
    w.Throughout P := by
  have hat : (mapping fields).at? [k] = some w := by
    rw [at?_mapping_cons, hw, Option.bind_some, at?_nil]
  exact h.at? hat

theorem throughout_of_not_mapping (hv : v.isMapping = false) : v.Throughout P := by
  intro ks fields hks
  cases ks with
  | nil =>
    rw [at?_nil, Option.some.injEq] at hks
    rw [hks] at hv
    cases hv
  | cons k ks =>
    rw [at?_cons_of_not_mapping hv] at hks
    cases hks

theorem throughout_mapping (h : P fields) (hfields : ∀ e ∈ fields, e.2.Throughout P) :
    (mapping fields).Throughout P := by
  intro ks inner hks
  cases ks with
  | nil =>
    rw [at?_nil, Option.some.injEq] at hks
    cases hks
    exact h
  | cons k ks =>
    rw [at?_mapping_cons, Option.bind_eq_some_iff] at hks
    obtain ⟨w, hw, hks⟩ := hks
    obtain ⟨e, he, rfl⟩ := Fields.exists_mem_of_get? hw
    exact hfields e he ks inner hks

theorem Throughout.self (h : (mapping fields).Throughout P) : P fields := h [] fields (at?_nil _)

end

end Value

/-- Segments as keys. -/
def segmentKeys (segs : List String) : List Key := segs.map Key.text

theorem segmentKeys_injective : Function.Injective segmentKeys :=
  List.map_injective_iff.2 fun _ _ h => Key.text.inj h

theorem segmentKeys_prefix_iff {p q : List String} : segmentKeys p <+: segmentKeys q ↔ p <+: q := by
  constructor
  · intro h
    obtain ⟨r, hr, hpr⟩ := List.prefix_map_iff.1 h
    exact segmentKeys_injective hpr ▸ hr
  · exact fun h => h.map _

end MetricDocs
