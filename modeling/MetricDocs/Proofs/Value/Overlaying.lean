/-
  Laying mappings over mappings, told at every sequence of keys.

  * `Fields.keys_merge`: the keys of the lower mapping come first, then the new ones;
  * `Value.laidOn_twice`: laying the same value over a second time changes nothing;
  * `Value.merge_overlaid`: so a merge is told at every sequence of keys.
-/
import MetricDocs.Proofs.Value.Merging

namespace MetricDocs

/-! ## Keys -/

/-- **The keys of the lower mapping come first**, then those of the upper one that are new. -/
theorem Fields.keys_merge {overlay : Fields} (h : Distinct overlay) (base : Fields) :
    keys (merge base overlay) =
      keys base ++ (keys overlay).filter fun k => (get? base k).isNone := by
  induction overlay generalizing base with
  | nil => simp [merge, keys]
  | cons e overlay ih =>
    obtain ⟨k, v⟩ := e
    obtain ⟨hk, h⟩ := List.pairwise_cons.1 h
    have hrest : (keys overlay).filter (fun l =>
        (get? (put base k (v.laidOn (get? base k))) l).isNone) =
          (keys overlay).filter fun l => (get? base l).isNone := by
      refine List.filter_congr fun l hl => ?_
      obtain ⟨e, he, rfl⟩ := List.mem_map.1 hl
      rw [get?_put_of_not_same (hk e he)]
    rw [merge, ih h, hrest]
    cases hget : get? base k with
    | none =>
      rw [put_of_get?_eq_none hget, keys, List.map_append, List.append_assoc, ← keys]
      simp [keys, hget]
    | some w =>
      rw [keys, keys_put_of_get? hget, ← keys]
      simp [keys, hget]

/-! ## A second time -/

/-- Every key is the same as itself. -/
def Fields.SelfSame (fields : Fields) : Prop := ∀ e ∈ fields, e.1.same e.1 = true

instance (fields : Fields) : Decidable (Fields.SelfSame fields) :=
  inferInstanceAs (Decidable (∀ e ∈ fields, e.1.same e.1 = true))

theorem Fields.get?_of_mem {fields : Fields} (hd : Distinct fields) (hs : SelfSame fields)
    {e : Key × Value} (he : e ∈ fields) : get? fields e.1 = some e.2 := by
  induction fields with
  | nil => cases he
  | cons e' fields ih =>
    obtain ⟨k, v⟩ := e'
    obtain ⟨hk, hd⟩ := List.pairwise_cons.1 hd
    obtain ⟨hself, hs⟩ := List.forall_mem_cons.1 hs
    rcases List.mem_cons.1 he with rfl | he
    · rw [get?_cons, if_pos hself]
    · rw [get?_cons, if_neg (by simpa using hk e he), ih hd hs he]

theorem Fields.merge_eq_self {base overlay : Fields}
    (h : ∀ e ∈ overlay, ∃ w, get? base e.1 = some w ∧ e.2.laidOn (some w) = w) :
    merge base overlay = base := by
  induction overlay with
  | nil => rw [merge]
  | cons e overlay ih =>
    obtain ⟨⟨w, hw, hlaid⟩, h⟩ := List.forall_mem_cons.1 h
    rw [merge, hw, hlaid, put_eq_self hw, ih h]

namespace Value

/-- **Laying a value over itself, or over what it was laid over, changes nothing.** -/
theorem laidOn_twice {v : Value} (hd : v.Throughout Fields.Distinct)
    (hs : v.Throughout Fields.SelfSame) :
    v.laidOn (some v) = v ∧
      ∀ existing, v.laidOn (some (v.laidOn existing)) = v.laidOn existing := by
  have hleaf : ∀ {v : Value}, v.isMapping = false → v.laidOn (some v) = v ∧
      ∀ existing, v.laidOn (some (v.laidOn existing)) = v.laidOn existing := fun hv =>
    ⟨laidOn_eq_self (.inl hv), fun existing => by
      rw [laidOn_eq_self (.inl hv), laidOn_eq_self (.inl hv)]⟩
  induction v using Value.inductionOn with
  | scalar v hv => exact hleaf (isMapping_of_isScalar hv)
  | list vs => exact hleaf rfl
  | tuple vs => exact hleaf rfl
  | mapping fields ih =>
    have hget : ∀ e ∈ fields, Fields.get? fields e.1 = some e.2 := fun e he =>
      Fields.get?_of_mem hd.self hs.self he
    -- each entry finds itself below, so it is laid on its own value
    have hself : Fields.merge fields fields = fields := Fields.merge_eq_self fun e he =>
      ⟨e.2, hget e he, (ih e he (hd.get? (hget e he)) (hs.get? (hget e he))).1⟩
    refine ⟨by rw [laidOn_mapping, hself], fun existing => ?_⟩
    by_cases hexisting : ∃ lower, existing = some (mapping lower)
    · obtain ⟨lower, rfl⟩ := hexisting
      rw [laidOn_mapping, laidOn_mapping]
      refine congrArg mapping (Fields.merge_eq_self fun e he =>
        ⟨e.2.laidOn (Fields.get? lower e.1), ?_, ?_⟩)
      · rw [Fields.get?_merge hd.self, hget e he]
      · exact (ih e he (hd.get? (hget e he)) (hs.get? (hget e he))).2 _
    · rw [laidOn_eq_self (.inr hexisting), laidOn_mapping, hself]

/-! ## The main theorem -/

/-- What stands at every sequence of keys after one value was laid over another. -/
structure Overlaid (base overlay merged : Value) : Prop where
  /-- A leaf of the upper value stands where it stood. -/
  leaf : ∀ ks v, overlay.Leaf ks v → merged.at? ks = some v
  /-- Two mappings at one place are merged: the keys of the lower one in their order, then the new
      ones of the upper one in theirs. -/
  both : ∀ ks upper lower, overlay.at? ks = some (mapping upper) →
    base.at? ks = some (mapping lower) →
      ∃ inner, (mapping lower).merge (mapping upper) = .ok (mapping inner) ∧
        merged.at? ks = some (mapping inner) ∧
        Fields.keys inner =
          Fields.keys lower ++ (Fields.keys upper).filter fun k => (Fields.get? lower k).isNone
  /-- A mapping of the upper value takes the place of everything but a mapping. -/
  upper : ∀ ks upper, overlay.at? ks = some (mapping upper) →
    (¬ ∃ lower, base.at? ks = some (mapping lower)) → merged.at? ks = some (mapping upper)
  /-- Nothing stands below a leaf of the upper value. -/
  below : ∀ ks p v, p <+: ks → p ≠ ks → overlay.Leaf p v → merged.at? ks = none
  /-- Elsewhere the lower value shows. -/
  absent : ∀ ks, overlay.at? ks = none → (∀ p v, p <+: ks → p ≠ ks → ¬ overlay.Leaf p v) →
    merged.at? ks = base.at? ks

/-- **A merge, told at every sequence of keys.**  The upper mapping is one whose levels have
    distinct keys.  If each key is also the same as itself, which only a double that is no number is
    not, then merging a second time changes nothing. -/
theorem merge_overlaid {overlay : Fields} (h : (mapping overlay).Throughout Fields.Distinct)
    (base : Fields) :
    ∃ merged, (mapping base).merge (mapping overlay) = .ok (mapping merged) ∧
      Overlaid (mapping base) (mapping overlay) (mapping merged) ∧
      ((mapping overlay).Throughout Fields.SelfSame →
        (mapping merged).merge (mapping overlay) = .ok (mapping merged)) := by
  refine ⟨Fields.merge base overlay, rfl, ?_, fun hs => ?_⟩
  · rw [← laidOn_mapping]
    constructor
    case leaf => exact fun ks v hv => (h.leaf_laidOn hv).1
    case both =>
      intro ks upper lower hupper hlower
      refine ⟨_, rfl, ?_, Fields.keys_merge (h ks upper hupper) lower⟩
      rw [at?_laidOn h hupper, Option.bind_some, hlower, laidOn_mapping]
    case upper =>
      intro ks upper hupper hlower
      rw [at?_laidOn h hupper, Option.bind_some, laidOn_eq_self (.inr hlower)]
    case below => exact fun ks p v hp hne hv => at?_laidOn_of_leaf h hp hne hv
    case absent => exact fun ks hks hfree => at?_laidOn_of_absent h hks hfree
  · have htwice := (laidOn_twice h hs).2 (some (mapping base))
    rw [laidOn_mapping, laidOn_mapping] at htwice
    exact congrArg Except.ok htwice

/-- A mapping with a level under true. -/
def underTrue : Fields :=
  [(.bool true, .mapping [(.text "b", .int 3), (.text "c", .mapping [])]), (.text "x", .null)]

theorem throughout_underTrue {P : Fields → Prop} (h : P underTrue)
    (hlevel : P [(.text "b", .int 3), (.text "c", .mapping [])]) (hnil : P []) :
    (mapping underTrue).Throughout P := by
  refine throughout_mapping h (List.forall_mem_cons.2 ⟨?_, List.forall_mem_cons.2
    ⟨throughout_of_not_mapping rfl, List.forall_mem_nil _⟩⟩)
  refine throughout_mapping hlevel (List.forall_mem_cons.2 ⟨throughout_of_not_mapping rfl,
    List.forall_mem_cons.2 ⟨throughout_mapping hnil (List.forall_mem_nil _),
      List.forall_mem_nil _⟩⟩)

/-- True is the key one, and the levels under them are merged. -/
theorem sharedLevel_overlaid :
    (mapping underTrue).Throughout Fields.Distinct ∧
      (mapping underTrue).Throughout Fields.SelfSame ∧
      ∃ merged, (mapping [(.text "x", mapping []),
          (.int 1, mapping [(.text "b", .int 2), (.text "a", .int 1)])]).merge (mapping underTrue) =
            .ok (mapping merged) ∧
        merged = [(.text "x", .null),
          (.int 1, mapping [(.text "b", .int 3), (.text "a", .int 1), (.text "c", mapping [])])] ∧
        (mapping merged).merge (mapping underTrue) = .ok (mapping merged) := by
  have hdistinct : (mapping underTrue).Throughout Fields.Distinct :=
    throughout_underTrue (by decide) (by decide) (by decide)
  have hself : (mapping underTrue).Throughout Fields.SelfSame :=
    throughout_underTrue (by decide) (by decide) (by decide)
  obtain ⟨merged, hmerged, -, htwice⟩ := merge_overlaid hdistinct
    [(.text "x", mapping []), (.int 1, mapping [(.text "b", .int 2), (.text "a", .int 1)])]
  exact ⟨hdistinct, hself, merged, hmerged, (mapping.inj (Except.ok.inj hmerged)).symm,
    htwice hself⟩

end Value

end MetricDocs
