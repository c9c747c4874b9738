/-
  Writing along paths.

  A walk changes the mapping on its way and may be refused further down.  Still a write is all or
  nothing:

  * `Fields.place?` is the mapping after a write, or nothing if it is refused, and
    `Fields.place?_eq_none_iff`: it is refused iff it is `Fields.Blocked`, a leaf other than null
    stands at a proper prefix of its path;
  * `Fields.walk_eq`: a walk leaves the mapping after the write, or the mapping as it was;
  * `Fields.at?_place?_self`, `Fields.at?_place?_of_prefix` and `Fields.at?_place?_of_apart`: after
    a write the value stands at its path, mappings lead to it, and everything beside the path is
    what it was;
  * `Fields.leaf_place?_iff`: so the leaves after the write of a leaf are that leaf and the old
    leaves beside its path.
-/
import MetricDocs.Proofs.Value.Reading

namespace MetricDocs

namespace Value

theorem leaf_nil_iff {v w : Value} : v.Leaf [] w ↔ w = v ∧ v.isMapping = false := by
  rw [Leaf, at?_nil, Option.some.injEq]
  constructor
  · rintro ⟨rfl, h⟩; exact ⟨rfl, h⟩
  · rintro ⟨rfl, h⟩; exact ⟨rfl, h⟩

theorem leaf_cons_iff {fields : Fields} {k : Key} {ks : List Key} {w : Value} :
    (mapping fields).Leaf (k :: ks) w ↔ ∃ u, Fields.get? fields k = some u ∧ u.Leaf ks w := by
  simp only [Leaf, at?_mapping_cons, Option.bind_eq_some_iff]
  constructor
  · rintro ⟨⟨u, hu, h⟩, hw⟩; exact ⟨u, hu, h, hw⟩
  · rintro ⟨u, hu, h, hw⟩; exact ⟨⟨u, hu, h⟩, hw⟩

theorem not_leaf_empty {ks : List Key} {w : Value} : ¬ (mapping []).Leaf ks w := by
  cases ks with
  | nil => simp [leaf_nil_iff, isMapping]
  | cons k ks => simp [leaf_cons_iff, Fields.get?]

end Value

namespace Fields

/-- Writes `v` at the path `s :: rest`, or refuses. -/
def place? (fields : Fields) (s : String) (rest : List String) (v : Value) : Option Fields :=
  match rest with
  | [] => some (put fields (.text s) v)
  | t :: rest =>
    match get? fields (.text s) with
    | none | some .null =>
      (place? [] t rest v).map fun child => put fields (.text s) (.mapping child)
    | some (.mapping inner) =>
      (place? inner t rest v).map fun child => put fields (.text s) (.mapping child)
    | some _ => none

variable {fields fields' : Fields} {s : String} {rest : List String} {v : Value}

/-- What a write below the first segment goes into: the mapping that is there, or a new one in the
    place of nothing or null. -/
def Opens (fields : Fields) (s : String) (inner : Fields) : Prop :=
  get? fields (.text s) = some (.mapping inner) ∨
    inner = [] ∧ (get? fields (.text s) = none ∨ get? fields (.text s) = some .null)

theorem place?_cons_eq_some_iff {t : String} :
    place? fields s (t :: rest) v = some fields' ↔
      ∃ inner child, Opens fields s inner ∧ place? inner t rest v = some child ∧
        fields' = put fields (.text s) (.mapping child) := by
  rw [place?]
  constructor
  · intro h
    split at h
    · rename_i hs
      obtain ⟨child, hc, rfl⟩ := Option.map_eq_some_iff.1 h
      exact ⟨[], child, Or.inr ⟨rfl, Or.inl hs⟩, hc, rfl⟩
    · rename_i hs
      obtain ⟨child, hc, rfl⟩ := Option.map_eq_some_iff.1 h
      exact ⟨[], child, Or.inr ⟨rfl, Or.inr hs⟩, hc, rfl⟩
    · rename_i inner hs
      obtain ⟨child, hc, rfl⟩ := Option.map_eq_some_iff.1 h
      exact ⟨inner, child, Or.inl hs, hc, rfl⟩
    · cases h
  · rintro ⟨inner, child, hs | ⟨rfl, hs | hs⟩, hc, rfl⟩ <;> rw [hs] <;> simp [hc]

/-! ## Refusal -/

/-- A leaf other than null stands at a proper prefix of the path. -/
def Blocked (root : Value) (path : List String) : Prop :=
  ∃ p w, p <+: path ∧ p ≠ path ∧ root.Leaf (segmentKeys p) w ∧ w ≠ .null

theorem not_blocked_singleton : ¬ Blocked (.mapping fields) [s] := by
  rintro ⟨p, w, hp, hne, hl, -⟩
  rcases List.prefix_cons_iff.1 hp with rfl | ⟨q, rfl, hq⟩
  · simp [segmentKeys, Value.leaf_nil_iff, Value.isMapping] at hl
  · rw [List.prefix_nil.1 hq] at hne
    exact hne rfl

theorem blocked_cons_iff {t : String} :
    Blocked (.mapping fields) (s :: t :: rest) ↔
      ∃ u, get? fields (.text s) = some u ∧ Blocked u (t :: rest) := by
  constructor
  · rintro ⟨p, w, hp, hne, hl, hw⟩
    rcases List.prefix_cons_iff.1 hp with rfl | ⟨q, rfl, hq⟩
    · simp [segmentKeys, Value.leaf_nil_iff, Value.isMapping] at hl
    · obtain ⟨u, hu, hl⟩ := Value.leaf_cons_iff.1 hl
      exact ⟨u, hu, q, w, hq, fun h => hne (by rw [h]), hl, hw⟩
  · rintro ⟨u, hu, p, w, hp, hne, hl, hw⟩
    exact ⟨s :: p, w, List.prefix_cons_inj s |>.2 hp, fun h => hne (List.cons.inj h).2,
      Value.leaf_cons_iff.2 ⟨u, hu, hl⟩, hw⟩

theorem not_blocked_empty {path : List String} : ¬ Blocked (.mapping []) path := by
  rintro ⟨p, w, -, -, hl, -⟩
  exact Value.not_leaf_empty hl

theorem not_blocked_null {path : List String} : ¬ Blocked .null path := by
  rintro ⟨p, w, -, -, hl, hw⟩
  cases p with
  | nil => exact hw (Value.leaf_nil_iff.1 hl).1
  | cons q p => cases hl.1

theorem blocked_of_leaf {u : Value} {t : String} (hmapping : ∀ inner, u ≠ .mapping inner)
    (hnull : u ≠ .null) : Blocked u (t :: rest) := by
  have hu : u.isMapping = false := by
    cases hu : u.isMapping with
    | false => rfl
    | true =>
      obtain ⟨inner, rfl⟩ := Value.isMapping_eq_true_iff.1 hu
      exact absurd rfl (hmapping inner)
  exact ⟨[], u, List.nil_prefix, (List.cons_ne_nil _ _).symm, Value.leaf_nil_iff.2 ⟨rfl, hu⟩,
    hnull⟩

/-- **A write is refused iff its path leads through a leaf other than null.** -/
theorem place?_eq_none_iff :
    place? fields s rest v = none ↔ Blocked (.mapping fields) (s :: rest) := by
  induction rest generalizing fields s with
  | nil =>
    rw [place?]
    exact iff_of_false (Option.some_ne_none _) not_blocked_singleton
  | cons t rest ih =>
    rw [blocked_cons_iff, place?]
    split
    · rename_i hs
      rw [Option.map_eq_none_iff, ih, hs]
      simp [not_blocked_empty]
    · rename_i hs
      rw [Option.map_eq_none_iff, ih, hs]
      refine iff_of_false not_blocked_empty ?_
      rintro ⟨u, hu, hblocked⟩
      cases hu
      exact not_blocked_null hblocked
    · rename_i inner hs
      rw [Option.map_eq_none_iff, ih, hs]
      simp only [Option.some.injEq, exists_eq_left']
    · rename_i u hnull hmapping hs
      exact iff_of_true rfl ⟨u, hs, blocked_of_leaf hmapping hnull⟩

/-! ## All or nothing -/

theorem exists_place?_nil (s : String) (rest : List String) (v : Value) :
    ∃ child, place? [] s rest v = some child := by
  rw [← Option.ne_none_iff_exists', ne_eq, place?_eq_none_iff]
  exact not_blocked_empty

/-- **A walk leaves the mapping after the write, or the mapping as it was.** -/
theorem walk_eq : walk fields (s :: rest) v =
    ((place? fields s rest v).getD fields, (place? fields s rest v).isSome) := by
  induction rest generalizing fields s with
  | nil => rfl
  | cons t rest ih =>
    obtain ⟨made, hmade⟩ := exists_place?_nil t rest v
    rw [walk, place?]
    cases hs : get? fields (.text s) with
    | none =>
      simp only [ih, hmade]
      rfl
    | some u =>
      cases u with
      | null =>
        simp only [ih, hmade]
        rfl
      | mapping inner =>
        simp only [ih]
        cases place? inner t rest v with
        | none => simp only [Option.getD_none, put_eq_self hs]; rfl
        | some child => rfl
      | _ => rfl

/-! ## Reading after a write -/

theorem at?_place?_self (h : place? fields s rest v = some fields') (ls : List Key) :
    (Value.mapping fields').at? (segmentKeys (s :: rest) ++ ls) = v.at? ls := by
  induction rest generalizing fields fields' s with
  | nil =>
    cases h
    simp [segmentKeys, get?_put_self (Key.isText_text s)]
  | cons t rest ih =>
    obtain ⟨inner, child, -, hc, rfl⟩ := place?_cons_eq_some_iff.1 h
    rw [segmentKeys, List.map_cons, List.cons_append, Value.at?_mapping_cons,
      get?_put_self (Key.isText_text s)]
    exact ih hc

theorem at?_place?_of_prefix (h : place? fields s rest v = some fields') {p : List String}
    (hp : p <+: s :: rest) (hne : p ≠ s :: rest) :
    ∃ inner, (Value.mapping fields').at? (segmentKeys p) = some (.mapping inner) := by
  induction rest generalizing fields fields' s p with
  | nil =>
    rcases List.prefix_cons_iff.1 hp with rfl | ⟨q, rfl, hq⟩
    · exact ⟨fields', Value.at?_nil _⟩
    · rw [List.prefix_nil.1 hq] at hne
      exact absurd rfl hne
  | cons t rest ih =>
    rcases List.prefix_cons_iff.1 hp with rfl | ⟨q, rfl, hq⟩
    · exact ⟨fields', Value.at?_nil _⟩
    · obtain ⟨inner, child, -, hc, rfl⟩ := place?_cons_eq_some_iff.1 h
      rw [segmentKeys, List.map_cons, Value.at?_mapping_cons, get?_put_self (Key.isText_text s)]
      exact ih hc hq fun h => hne (by rw [h])

theorem at?_place?_of_apart (h : place? fields s rest v = some fields') {ks : List Key}
    (hks : ¬ ks <+: segmentKeys (s :: rest)) (hpath : ¬ segmentKeys (s :: rest) <+: ks) :
    (Value.mapping fields').at? ks = (Value.mapping fields).at? ks := by
  induction rest generalizing fields fields' s ks with
  | nil =>
    cases h
    rcases ks with _ | ⟨k, ks⟩
    · exact absurd List.nil_prefix hks
    · have hk : k ≠ .text s := by
        rintro rfl
        exact hpath ⟨ks, rfl⟩
      rw [Value.at?_mapping_cons, Value.at?_mapping_cons, get?_put_of_ne (Key.isText_text s) hk]
  | cons t rest ih =>
    obtain ⟨inner, child, hs, hc, rfl⟩ := place?_cons_eq_some_iff.1 h
    rcases ks with _ | ⟨k, ks⟩
    · exact absurd List.nil_prefix hks
    · rw [Value.at?_mapping_cons, Value.at?_mapping_cons]
      by_cases hk : k = .text s
      · subst hk
        have hks' : ¬ ks <+: segmentKeys (t :: rest) := fun h' =>
          hks ((List.prefix_cons_inj _).2 h')
        have hpath' : ¬ segmentKeys (t :: rest) <+: ks := fun h' =>
          hpath ((List.prefix_cons_inj _).2 h')
        rw [get?_put_self (Key.isText_text s), Option.bind_some, ih hc hks' hpath']
        -- an opened mapping that was not there before holds nothing, like null and nothing itself
        obtain ⟨l, ls, rfl⟩ : ∃ l ls, ks = l :: ls :=
          List.exists_cons_of_ne_nil fun h' => hks' (h' ▸ List.nil_prefix)
        rcases hs with hs | ⟨rfl, hs | hs⟩ <;> rw [hs] <;> rfl
      · rw [get?_put_of_ne (Key.isText_text s) hk]

/-! ## Leaves -/

/-- **The leaves after the write of a leaf** are that leaf and the old ones beside its path. -/
theorem leaf_place?_iff (h : place? fields s rest v = some fields') (hv : v.isMapping = false)
    {ks : List Key} {w : Value} :
    (Value.mapping fields').Leaf ks w ↔
      ks = segmentKeys (s :: rest) ∧ w = v ∨
        ¬ ks <+: segmentKeys (s :: rest) ∧ ¬ segmentKeys (s :: rest) <+: ks ∧
          (Value.mapping fields).Leaf ks w := by
  have hself := at?_place?_self h
  -- at the place or below it, on the way to it, or apart from it
  by_cases hpath : segmentKeys (s :: rest) <+: ks
  · obtain ⟨ls, rfl⟩ := hpath
    have hleaf : (Value.mapping fields').Leaf (segmentKeys (s :: rest) ++ ls) w ↔ v.Leaf ls w := by
      rw [Value.Leaf, hself, Value.Leaf]
    rw [hleaf]
    cases ls with
    | nil => simp [Value.leaf_nil_iff, hv]
    | cons l ls => simp [Value.Leaf, Value.at?_cons_of_not_mapping hv]
  · by_cases hks : ks <+: segmentKeys (s :: rest)
    · obtain ⟨p, hp, rfl⟩ := List.prefix_map_iff.1 hks
      have hne : p ≠ s :: rest := fun h' => hpath (h' ▸ List.prefix_refl _)
      obtain ⟨inner, hin⟩ := at?_place?_of_prefix h hp hne
      have hnot : ¬ (Value.mapping fields').Leaf (segmentKeys p) w := by
        rintro ⟨hw, hm⟩
        rw [hin] at hw
        cases hw
        cases hm
      have hne' : p.map Key.text ≠ segmentKeys (s :: rest) := fun h' =>
        hne (segmentKeys_injective h')
      constructor
      · exact fun h' => absurd h' hnot
      · rintro (⟨h', -⟩ | ⟨h', -⟩)
        · exact absurd h' hne'
        · exact absurd hks h'
    · have hne : ks ≠ segmentKeys (s :: rest) := fun h' => hks (h' ▸ List.prefix_refl _)
      rw [Value.Leaf, at?_place?_of_apart h hks hpath, ← Value.Leaf]
      simp [hks, hpath, hne]

end Fields

theorem Value.place_mapping_cons (fields : Fields) (s : String) (rest : List String) (v : Value) :
    (mapping fields).place (s :: rest) v = .ok ((Fields.place? fields s rest v).map mapping) := by
  rw [place, Fields.walk_eq]
  cases Fields.place? fields s rest v <;> rfl

end MetricDocs
