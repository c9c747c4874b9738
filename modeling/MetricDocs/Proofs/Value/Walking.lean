/-
  What a walk leaves.

  A walk that comes to its end has written its value and made or kept the mappings that lead there,
  and everything beside its path is what it was; one that does not come to its end has changed
  nothing, although it may have made levels on its way:

  * `Fields.blocked_iff`: a path is blocked by what is read at one of its proper prefixes;
  * `Fields.walk_all_or_nothing`: when a walk comes to its end, and what it leaves.
-/
import MetricDocs.Proofs.Path.Segments
import MetricDocs.Proofs.Value.Placing

namespace MetricDocs.Fields

theorem blocked_iff {root : Value} {path : List String} :
    Blocked root path ↔ ∃ p w, p <+: path ∧ p ≠ path ∧ root.at? (segmentKeys p) = some w ∧
      w ≠ .null ∧ w.isMapping = false := by
  constructor
  · rintro ⟨p, w, hp, hne, ⟨hw, hmapping⟩, hnull⟩
    exact ⟨p, w, hp, hne, hw, hnull, hmapping⟩
  · rintro ⟨p, w, hp, hne, hw, hnull, hmapping⟩
    exact ⟨p, w, hp, hne, ⟨hw, hmapping⟩, hnull⟩

/-- **A walk is all or nothing.**  It is refused iff a proper prefix of its path leads through
    mappings to a value that is neither null nor a mapping, and then the mapping is what it was,
    with its order.  Otherwise the value stands at the path, mappings lead to it, and at every
    sequence of keys that neither leads to the path nor goes on from it the mapping reads as
    before. -/
theorem walk_all_or_nothing (fields : Fields) (path : String) (v : Value) :
    ∃ after done, walk fields (Path.segments path) v = (after, done) ∧
      (Value.mapping fields).place (Path.segments path) v =
        .ok (if done then some (.mapping after) else none) ∧
      (done = false ↔ ∃ p w, p <+: Path.segments path ∧ p ≠ Path.segments path ∧
        (Value.mapping fields).at? (segmentKeys p) = some w ∧ w ≠ .null ∧ w.isMapping = false) ∧
      (done = false → after = fields) ∧
      (done = true →
        (Value.mapping after).at? (segmentKeys (Path.segments path)) = some v ∧
        (∀ p, p <+: Path.segments path → p ≠ Path.segments path →
          ∃ inner, (Value.mapping after).at? (segmentKeys p) = some (.mapping inner)) ∧
        ∀ ks, ¬ ks <+: segmentKeys (Path.segments path) →
          ¬ segmentKeys (Path.segments path) <+: ks →
          (Value.mapping after).at? ks = (Value.mapping fields).at? ks) := by
  obtain ⟨s, rest, hpath⟩ := List.exists_cons_of_ne_nil (Path.segments_ne_nil path)
  rw [hpath, walk_eq, Value.place_mapping_cons, ← blocked_iff, ← place?_eq_none_iff (v := v)]
  cases hplace : place? fields s rest v with
  | none => exact ⟨fields, false, rfl, rfl, iff_of_true rfl rfl, fun _ => rfl, nofun⟩
  | some after =>
    refine ⟨after, true, rfl, rfl, iff_of_false nofun nofun, nofun, fun _ => ⟨?_, ?_, ?_⟩⟩
    · have hself := at?_place?_self hplace []
      rwa [List.append_nil, Value.at?_nil] at hself
    · exact fun p => at?_place?_of_prefix hplace
    · exact fun ks => at?_place?_of_apart hplace

end MetricDocs.Fields
