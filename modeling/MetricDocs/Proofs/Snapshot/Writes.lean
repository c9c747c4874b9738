/-
  The writes to one object.

  A write goes to a place, a sequence of segments inside the object.  Writes to places that are
  prefixes of each other are in conflict: the later one is refused if its place leads through the
  earlier one's, and replaces everything below its place otherwise.

  * `Obstructed ws p`: some write went to a proper prefix of `p`;
  * `Survives ws p v`: the last write to `p` was `v`, and `p` is not obstructed;
  * `Holds ws fields`: the leaves of `fields` are what survives, and every mapping inside leads to
    a leaf;
  * `Holds.place?_eq_none_iff` and `Holds.append`: the next write is refused iff its place is
    obstructed, and refused or not, what is left holds the writes with that one added.
-/
import MetricDocs.Proofs.Value.Placing
import MetricDocs.Snapshot

namespace MetricDocs.Snapshot

/-- A write to an object: its place and its value. -/
abbrev Write := List String × Value

/-- Some write went to a proper prefix of a place. -/
def Obstructed (ws : List Write) (p : List String) : Prop :=
  ∃ w ∈ ws, w.1 <+: p ∧ w.1 ≠ p

instance (ws : List Write) (p : List String) : Decidable (Obstructed ws p) :=
  inferInstanceAs (Decidable (∃ w ∈ ws, w.1 <+: p ∧ w.1 ≠ p))

/-- The value of the last write to a place. -/
def lastAt (ws : List Write) (p : List String) : Option Value :=
  (ws.reverse.find? fun w => w.1 = p).map Prod.snd

/-- The last write to a place that is not obstructed. -/
def Survives (ws : List Write) (p : List String) (v : Value) : Prop :=
  lastAt ws p = some v ∧ ¬ Obstructed ws p

/-! ## One more write -/

section
variable {ws : List Write} {p q : List String} {v w : Value}

theorem obstructed_append : Obstructed (ws ++ [(p, v)]) q ↔ Obstructed ws q ∨ p <+: q ∧ p ≠ q := by
  simp [Obstructed, or_and_right, exists_or]

theorem lastAt_append : lastAt (ws ++ [(p, v)]) q = if p = q then some v else lastAt ws q := by
  rw [lastAt, List.reverse_append, List.reverse_singleton, List.singleton_append, List.find?_cons]
  by_cases h : p = q <;> simp [h, lastAt]

theorem lastAt_eq_none_iff : lastAt ws p = none ↔ ∀ w ∈ ws, w.1 ≠ p := by
  simp [lastAt]

theorem lastAt_append_of_ne {ws' : List Write} (h : ∀ w ∈ ws', w.1 ≠ p) :
    lastAt (ws ++ ws') p = lastAt ws p := by
  have hnone : ws'.reverse.find? (fun w => w.1 = p) = none :=
    List.find?_eq_none.2 fun w hw => by simpa using h w (List.mem_reverse.1 hw)
  rw [lastAt, List.reverse_append, List.find?_append, hnone, Option.none_or, lastAt]

theorem exists_lastAt {w : Write} (h : w ∈ ws) : ∃ v, lastAt ws w.1 = some v := by
  rw [← Option.ne_none_iff_exists', ne_eq, lastAt_eq_none_iff]
  exact fun hall => hall w h rfl

theorem mem_of_lastAt (h : lastAt ws p = some v) : (p, v) ∈ ws := by
  obtain ⟨w, hw, rfl⟩ := Option.map_eq_some_iff.1 h
  have hp : w.1 = p := by simpa using List.find?_some hw
  exact hp ▸ List.mem_reverse.1 (List.mem_of_find?_eq_some hw)

theorem Obstructed.mono (h : Obstructed ws p) (hpq : p <+: q) : Obstructed ws q := by
  obtain ⟨w, hw, hp, hne⟩ := h
  refine ⟨w, hw, hp.trans hpq, ?_⟩
  rintro rfl
  exact hne (hp.eq_of_length_le hpq.length_le)

theorem Obstructed.exists_survives (h : Obstructed ws p) :
    ∃ q u, q <+: p ∧ q ≠ p ∧ Survives ws q u := by
  induction hn : p.length using Nat.strong_induction_on generalizing p with
  | _ n ih =>
    subst hn
    obtain ⟨w, hw, hp, hne⟩ := h
    by_cases hob : Obstructed ws w.1
    · have hlt : w.1.length < p.length :=
        lt_of_le_of_ne hp.length_le fun hlen => hne (hp.eq_of_length hlen)
      obtain ⟨q, u, hq, hqne, hs⟩ := ih _ hlt hob rfl
      refine ⟨q, u, hq.trans hp, ?_, hs⟩
      rintro rfl
      exact absurd hq.length_le (not_le.2 hlt)
    · obtain ⟨u, hu⟩ := exists_lastAt hw
      exact ⟨w.1, u, hp, hne, hu, hob⟩

theorem exists_survives_prefix {w : Write} (hw : w ∈ ws) : ∃ q u, q <+: w.1 ∧ Survives ws q u := by
  by_cases hob : Obstructed ws w.1
  · obtain ⟨q, u, hq, -, hs⟩ := hob.exists_survives
    exact ⟨q, u, hq, hs⟩
  · obtain ⟨u, hu⟩ := exists_lastAt hw
    exact ⟨w.1, u, List.prefix_refl _, hu, hob⟩

theorem survives_append_of_obstructed (h : Obstructed ws p) :
    Survives (ws ++ [(p, v)]) q w ↔ Survives ws q w := by
  rw [Survives, Survives, obstructed_append, lastAt_append]
  by_cases hpq : p = q
  · subst hpq
    simp [h]
  · rw [if_neg hpq, not_or]
    refine and_congr_right fun _ => ⟨fun hq => hq.1, fun hq => ⟨hq, ?_⟩⟩
    exact fun hp => hq (h.mono hp.1)

theorem survives_append_of_free (h : ¬ Obstructed ws p) :
    Survives (ws ++ [(p, v)]) q w ↔ q = p ∧ w = v ∨ ¬ p <+: q ∧ Survives ws q w := by
  rw [Survives, Survives, obstructed_append, lastAt_append]
  by_cases hpq : p = q
  · subst hpq
    simp [h, eq_comm]
  · have hqp : q ≠ p := fun h' => hpq h'.symm
    rw [if_neg hpq]
    simp only [hqp, hpq, false_and, false_or, not_or, ne_eq, not_false_eq_true, and_true]
    tauto

end

/-! ## What the writes leave -/

/-- A value that stands in the way of writes below it. -/
def Solid (v : Value) : Prop := v.isMapping = false ∧ v ≠ .null

/-- A mapping that holds what solid writes leave. -/
structure Holds (ws : List Write) (fields : Fields) : Prop where
  solid : ∀ w ∈ ws, Solid w.2
  leaf_iff : ∀ ks v, (Value.mapping fields).Leaf ks v ↔ ∃ p, ks = segmentKeys p ∧ Survives ws p v
  below : ∀ ks inner, ks ≠ [] → (Value.mapping fields).at? ks = some (.mapping inner) →
    ∃ ls v, ls ≠ [] ∧ (Value.mapping fields).Leaf (ks ++ ls) v

theorem holds_nil : Holds [] [] where
  solid := by simp
  leaf_iff ks v := by simp [Value.not_leaf_empty, Survives, lastAt]
  below ks inner hks h := by
    obtain ⟨k, ks, rfl⟩ := List.exists_cons_of_ne_nil hks
    simp [Fields.get?] at h

section
variable {ws : List Write} {fields : Fields} {s : String} {rest : List String} {v : Value}

theorem Holds.survives_iff (h : Holds ws fields) {p : List String} {w : Value} :
    (Value.mapping fields).Leaf (segmentKeys p) w ↔ Survives ws p w := by
  rw [h.leaf_iff]
  constructor
  · rintro ⟨q, hq, hs⟩; exact segmentKeys_injective hq ▸ hs
  · exact fun hs => ⟨p, rfl, hs⟩

/-- **A write is refused iff its place is obstructed.** -/
theorem Holds.place?_eq_none_iff (h : Holds ws fields) :
    Fields.place? fields s rest v = none ↔ Obstructed ws (s :: rest) := by
  rw [Fields.place?_eq_none_iff]
  constructor
  · rintro ⟨p, w, hp, hne, hl, -⟩
    exact ⟨(p, w), mem_of_lastAt (h.survives_iff.1 hl).1, hp, hne⟩
  · intro hob
    obtain ⟨q, u, hq, hne, hs⟩ := hob.exists_survives
    exact ⟨q, u, hq, hne, h.survives_iff.2 hs, (h.solid _ (mem_of_lastAt hs.1)).2⟩

private theorem Holds.solid_append (h : Holds ws fields) (hv : Solid v) :
    ∀ w ∈ ws ++ [(s :: rest, v)], Solid w.2 := by
  intro w hw
  rcases List.mem_append.1 hw with hw | hw
  · exact h.solid w hw
  · rw [List.mem_singleton.1 hw]; exact hv

private theorem Holds.append_refused (h : Holds ws fields) (hv : Solid v)
    (hob : Obstructed ws (s :: rest)) : Holds (ws ++ [(s :: rest, v)]) fields where
  solid := h.solid_append hv
  leaf_iff ks w := by
    rw [h.leaf_iff]
    exact exists_congr fun p => and_congr_right fun _ => (survives_append_of_obstructed hob).symm
  below := h.below

section
variable {fields' : Fields} (hplace : Fields.place? fields s rest v = some fields')
include hplace

private theorem Holds.not_obstructed_of_placed (h : Holds ws fields) :
    ¬ Obstructed ws (s :: rest) := by
  intro hob
  rw [h.place?_eq_none_iff.2 hob] at hplace
  cases hplace

private theorem Holds.leaf_placed_iff (h : Holds ws fields) (hv : Solid v) {ks : List Key}
    {w : Value} : (Value.mapping fields').Leaf ks w ↔
      ∃ p, ks = segmentKeys p ∧ Survives (ws ++ [(s :: rest, v)]) p w := by
  have hfree := h.not_obstructed_of_placed hplace
  rw [Fields.leaf_place?_iff hplace hv.1, h.leaf_iff]
  simp only [survives_append_of_free hfree]
  constructor
  · rintro (⟨rfl, rfl⟩ | ⟨-, hpath, p, rfl, hs⟩)
    · exact ⟨s :: rest, rfl, Or.inl ⟨rfl, rfl⟩⟩
    · exact ⟨p, rfl, Or.inr ⟨fun hp => hpath (segmentKeys_prefix_iff.2 hp), hs⟩⟩
  · rintro ⟨p, rfl, ⟨rfl, rfl⟩ | ⟨hpath, hs⟩⟩
    · exact Or.inl ⟨rfl, rfl⟩
    · refine Or.inr ⟨fun hp => ?_, fun hp => hpath (segmentKeys_prefix_iff.1 hp), p, rfl, hs⟩
      -- a surviving prefix of the new place would have obstructed it
      have hp' : p <+: s :: rest := segmentKeys_prefix_iff.1 hp
      refine hfree ⟨(p, w), mem_of_lastAt hs.1, hp', ?_⟩
      rintro rfl
      exact hpath (List.prefix_refl _)

/-- After a write that went through, every mapping inside leads to a leaf: those above the new
    place to the new leaf, those beside it to the leaf they led to before. -/
private theorem Holds.below_placed (h : Holds ws fields) (hv : Solid v) {ks : List Key}
    {inner : Fields} (hks : ks ≠ [])
    (hat : (Value.mapping fields').at? ks = some (.mapping inner)) :
    ∃ ls u, ls ≠ [] ∧ (Value.mapping fields').Leaf (ks ++ ls) u := by
  have hleaf := @Fields.leaf_place?_iff _ _ _ _ _ hplace hv.1
  have hself : (Value.mapping fields').Leaf (segmentKeys (s :: rest)) v :=
    hleaf.2 (Or.inl ⟨rfl, rfl⟩)
  by_cases hp : ks <+: segmentKeys (s :: rest)
  · obtain ⟨ls, hls⟩ := hp
    refine ⟨ls, v, ?_, hls ▸ hself⟩
    rintro rfl
    rw [List.append_nil] at hls
    rw [hls, hself.1] at hat
    cases hat
    cases hv.1
  · by_cases hq : segmentKeys (s :: rest) <+: ks
    · obtain ⟨ls, rfl⟩ := hq
      have hls := hself.eq_nil hat
      rw [hls, List.append_nil] at hp
      exact absurd (List.prefix_refl _) hp
    · rw [Fields.at?_place?_of_apart hplace hp hq] at hat
      obtain ⟨ls, u, hne, hu⟩ := h.below ks inner hks hat
      refine ⟨ls, u, hne, hleaf.2 (Or.inr ⟨fun h' => hp ?_, fun h' => ?_, hu⟩)⟩
      · exact (List.prefix_append ks ls).trans h'
      · rcases List.prefix_or_prefix_of_prefix (List.prefix_append ks ls) h' with h' | h'
        · exact hp h'
        · exact hq h'

private theorem Holds.append_placed (h : Holds ws fields) (hv : Solid v) :
    Holds (ws ++ [(s :: rest, v)]) fields' where
  solid := h.solid_append hv
  leaf_iff _ _ := h.leaf_placed_iff hplace hv
  below _ _ := h.below_placed hplace hv

end

/-- **What is left after one more write**, refused or not, holds the writes with that one added. -/
theorem Holds.append (h : Holds ws fields) (hv : Solid v) :
    Holds (ws ++ [(s :: rest, v)]) ((Fields.place? fields s rest v).getD fields) := by
  cases hplace : Fields.place? fields s rest v with
  | none => exact h.append_refused hv (h.place?_eq_none_iff.1 hplace)
  | some fields' => exact h.append_placed hplace hv

end

end MetricDocs.Snapshot
