/-
  Values of a given form.

  * `Value.Formed P L v`: the keys of every mapping inside `v` are distinct and satisfy `P`, and
    what is neither a mapping nor a sequence satisfies `L`;
  * `Value.formed_mapping_iff` opens it one level, and `Value.Formed.of_leaf` asks the leaves alone;
  * `Value.Formed.get?` and `Value.Formed.at?`: what stands inside is of the form as well;
  * `Value.Formed.put`, `Value.Formed.ofList` and `Value.Formed.place?`: what is built from values
    of a form is of that form, if the form has texts as keys.
-/
import MetricDocs.Proofs.Value.Placing

namespace MetricDocs

namespace Value

mutual

/-- Distinct keys that satisfy `P` in every mapping, and leaves that satisfy `L`. -/
def Formed (P : Key → Prop) (L : Value → Prop) : Value → Prop
  | .list vs => FormedAll P L vs
  | .mapping fields => (fields.map Prod.fst).Nodup ∧ FormedFields P L fields
  | v => L v

/-- All values are of the form. -/
def FormedAll (P : Key → Prop) (L : Value → Prop) : List Value → Prop
  | [] => True
  | v :: vs => v.Formed P L ∧ FormedAll P L vs

/-- The keys of all entries satisfy `P`, and their values are of the form. -/
def FormedFields (P : Key → Prop) (L : Value → Prop) : List (Key × Value) → Prop
  | [] => True
  | (k, v) :: fields => P k ∧ v.Formed P L ∧ FormedFields P L fields

end

section
variable {P P' : Key → Prop} {L L' : Value → Prop}

theorem formedFields_iff {fields : Fields} :
    FormedFields P L fields ↔ ∀ e ∈ fields, P e.1 ∧ e.2.Formed P L := by
  induction fields with
  | nil => simp [FormedFields]
  | cons e fields ih =>
    obtain ⟨k, v⟩ := e
    simp [FormedFields, ih, and_assoc]

theorem formedAll_iff {vs : List Value} : FormedAll P L vs ↔ ∀ v ∈ vs, v.Formed P L := by
  induction vs with
  | nil => simp [FormedAll]
  | cons v vs ih => simp [FormedAll, ih]

theorem formed_scalar_iff {v : Value} (h : v.isScalar = true) : v.Formed P L ↔ L v := by
  cases v <;> first | exact Iff.rfl | cases h

theorem formed_mapping_iff {fields : Fields} : (mapping fields).Formed P L ↔
    (fields.map Prod.fst).Nodup ∧ ∀ e ∈ fields, P e.1 ∧ e.2.Formed P L := by
  rw [Formed, formedFields_iff]

theorem formed_empty : (mapping []).Formed P L := formed_mapping_iff.2 ⟨List.nodup_nil, by simp⟩

mutual

theorem Formed.mono (hP : ∀ k, P k → P' k) (hL : ∀ v, L v → L' v) :
    ∀ {v : Value}, v.Formed P L → v.Formed P' L'
  | .list _ => fun h => Formed.monoAll hP hL h
  | .mapping _ => fun h => ⟨h.1, Formed.monoFields hP hL h.2⟩
  | .null | .bool _ | .int _ | .float _ | .text _ | .surrogates _ | .bytes _ | .date _ | .moment _
  | .tuple _ | .set _ => fun h => hL _ h

theorem Formed.monoAll (hP : ∀ k, P k → P' k) (hL : ∀ v, L v → L' v) :
    ∀ {vs : List Value}, FormedAll P L vs → FormedAll P' L' vs
  | [] => fun _ => trivial
  | _ :: _ => fun h => ⟨Formed.mono hP hL h.1, Formed.monoAll hP hL h.2⟩

theorem Formed.monoFields (hP : ∀ k, P k → P' k) (hL : ∀ v, L v → L' v) :
    ∀ {fields : List (Key × Value)}, FormedFields P L fields → FormedFields P' L' fields
  | [] => fun _ => trivial
  | (_, _) :: _ => fun h => ⟨hP _ h.1, Formed.mono hP hL h.2.1, Formed.monoFields hP hL h.2.2⟩

end

mutual

/-- **The leaves decide the form** of a value whose keys are distinct texts. -/
theorem Formed.of_leaf (hP : ∀ k, P k → k.IsText) : ∀ {v : Value}, v.Formed P L →
    (∀ ks w, v.Leaf ks w → w.Formed P L') → v.Formed P L'
  | .mapping fields => fun h hleaf => by
    obtain ⟨hnodup, hmem⟩ := formed_mapping_iff.1 h
    refine ⟨hnodup, Formed.of_leafFields hP h.2 fun e he ks w hw => hleaf (e.1 :: ks) w ⟨?_, hw.2⟩⟩
    have hget := (Fields.get?_eq_some_iff (fun e he => hP _ (hmem e he).1) hnodup).2 he
    rw [at?_mapping_cons, hget, Option.bind_some, hw.1]
  | .null | .bool _ | .int _ | .float _ | .text _ | .surrogates _ | .bytes _ | .date _ | .moment _
  | .tuple _ | .set _ | .list _ => fun _ hleaf => hleaf [] _ ⟨at?_nil _, rfl⟩

theorem Formed.of_leafFields (hP : ∀ k, P k → k.IsText) : ∀ {fields : List (Key × Value)},
    FormedFields P L fields → (∀ e ∈ fields, ∀ ks w, e.2.Leaf ks w → w.Formed P L') →
      FormedFields P L' fields
  | [] => fun _ _ => trivial
  | (_, _) :: _ => fun h hleaf =>
    ⟨h.1, Formed.of_leaf hP h.2.1 (hleaf _ List.mem_cons_self),
      Formed.of_leafFields hP h.2.2 fun e he => hleaf e (List.mem_cons_of_mem _ he)⟩

end

/-! ## Building -/

theorem Formed.get? {fields : Fields} {k : Key} {v : Value} (h : (mapping fields).Formed P L)
    (hv : Fields.get? fields k = some v) : v.Formed P L := by
  obtain ⟨e, he, rfl⟩ := Fields.exists_mem_of_get? hv
  exact ((formed_mapping_iff.1 h).2 e he).2

theorem Formed.at? {v w : Value} {ks : List Key} (h : v.Formed P L) (hw : v.at? ks = some w) :
    w.Formed P L := by
  induction ks generalizing v with
  | nil =>
    rw [at?_nil, Option.some.injEq] at hw
    exact hw ▸ h
  | cons k ks ih =>
    obtain ⟨fields, rfl⟩ := exists_mapping_of_at? hw
    rw [at?_mapping_cons, Option.bind_eq_some_iff] at hw
    obtain ⟨u, hu, hw⟩ := hw
    exact ih (h.get? hu) hw

variable (hP : ∀ k, P k → k.IsText)
include hP

theorem Formed.throughout_distinct {v : Value} (h : v.Formed P L) :
    v.Throughout Fields.Distinct := by
  intro ks fields hks
  obtain ⟨hnodup, hmem⟩ := formed_mapping_iff.1 (h.at? hks)
  exact Fields.distinct_of_nodup (fun e he => hP _ (hmem e he).1) hnodup

theorem Formed.put {fields : Fields} {k : Key} {v : Value} (h : (mapping fields).Formed P L)
    (hk : P k) (hv : v.Formed P L) : (mapping (Fields.put fields k v)).Formed P L := by
  rw [formed_mapping_iff] at h ⊢
  refine ⟨?_, fun e he => ?_⟩
  · by_cases hmem : k ∈ fields.map Prod.fst
    · rw [Fields.keys_put_of_mem (hP k hk) v hmem]
      exact h.1
    · rw [Fields.put_of_notMem (hP k hk) v hmem, List.map_append, List.nodup_append]
      refine ⟨h.1, List.nodup_singleton k, ?_⟩
      rintro l hl m hm rfl
      rw [List.mem_singleton.1 hm] at hl
      exact hmem hl
  · rcases Fields.mem_put (hP k hk) he with rfl | he
    · exact ⟨hk, hv⟩
    · exact h.2 e he

theorem Formed.ofList {es : List (Key × Value)} (h : ∀ e ∈ es, P e.1 ∧ e.2.Formed P L) :
    (mapping (Fields.ofList es)).Formed P L := by
  have hfold : ∀ {fields : Fields}, (mapping fields).Formed P L →
      (mapping (es.foldl (fun fields e => Fields.put fields e.1 e.2) fields)).Formed P L := by
    induction es with
    | nil => exact fun hfields => hfields
    | cons e es ih =>
      obtain ⟨⟨hk, hv⟩, hes⟩ := List.forall_mem_cons.1 h
      exact fun hfields => ih hes (hfields.put hP hk hv)
  exact hfold formed_empty

theorem Formed.place? {fields fields' : Fields} {s : String} {rest : List String} {v : Value}
    (hT : ∀ s, P (.text s)) (h : (mapping fields).Formed P L) (hv : v.Formed P L)
    (hplace : Fields.place? fields s rest v = some fields') : (mapping fields').Formed P L := by
  induction rest generalizing fields fields' s with
  | nil =>
    cases hplace
    exact h.put hP (hT s) hv
  | cons t rest ih =>
    obtain ⟨inner, child, hopens, hchild, rfl⟩ := Fields.place?_cons_eq_some_iff.1 hplace
    have hinner : (mapping inner).Formed P L := by
      rcases hopens with hget | ⟨rfl, -⟩
      · exact h.get? hget
      · exact formed_empty
    exact h.put hP (hT s) (ih hinner hchild)

end

end Value

end MetricDocs
