/-
  The closed form of a snapshot.

  `addStreams_closed_form` says what streams of metrics assemble into, without following them: the
  objects are those of the paths in the order of their first metrics, the leaves of an object are
  the places that were written to and not obstructed, each with the value written there last, and
  the metrics that were dropped are those whose place was obstructed before them.

  Name and component count as the first two writes to an object, so an object is never empty
  (`Holds.exists_leaf`).
-/
import MetricDocs.Proofs.Snapshot.Assembly

namespace MetricDocs.Snapshot

section
variable {ms : Table} {name : String} {p : List String}

theorem ne_nil_of_mem_writesTo {w : Write} (h : w ∈ writesTo name ms) : w.1 ≠ [] := by
  rw [writesTo, List.mem_append] at h
  rcases h with h | h
  · rcases List.mem_pair.1 h with rfl | rfl <;> exact List.cons_ne_nil _ _
  · obtain ⟨m, -, rfl⟩ := List.mem_map.1 h
    exact Path.segments_ne_nil _

theorem not_obstructed_singleton (s : String) : ¬ Obstructed (writesTo name ms) [s] := by
  rintro ⟨w, hw, hp, hne⟩
  rcases List.prefix_cons_iff.1 hp with h | ⟨q, hq, hnil⟩
  · exact ne_nil_of_mem_writesTo hw h
  · rw [List.prefix_nil.1 hnil] at hq
    exact hne hq

theorem Holds.exists_leaf {fields : Fields} (h : Holds (writesTo name ms) fields) :
    ∃ v, (Value.mapping fields).Leaf [.text "metric"] v := by
  have hmem : (["metric"], Value.text name) ∈ writesTo name ms :=
    List.mem_append_left _ List.mem_cons_self
  obtain ⟨v, hv⟩ := exists_lastAt hmem
  exact ⟨v, h.survives_iff (p := ["metric"]).2 ⟨hv, not_obstructed_singleton _⟩⟩

theorem Holds.leads_to_leaf {fields inner : Fields} (h : Holds (writesTo name ms) fields)
    {ks : List Key} (hat : (Value.mapping fields).at? ks = some (.mapping inner)) :
    ∃ ls v, ls ≠ [] ∧ (Value.mapping fields).Leaf (ks ++ ls) v := by
  by_cases hks : ks = []
  · obtain ⟨v, hv⟩ := h.exists_leaf
    exact ⟨_, v, List.cons_ne_nil _ _, by rwa [hks]⟩
  · exact h.below ks inner hks hat

end

/-- **The closed form of assembly.**  Paths that can all be grouped assemble without failure into
    the objects, leaves and dropped metrics that the writes alone decide. -/
theorem addStreams_closed_form (streams : List Table)
    (hp : ∀ m ∈ streams.flatten, Path.Groupable m.1) :
    ∃ s, Snapshot.empty.addStreams (streams.map Aggregator.stream) = (s, none) ∧
      s.objects.map Prod.fst = (objectNames streams.flatten).map Key.text ∧
      (∀ name ∈ objectNames streams.flatten, ∃ fields,
        Fields.get? s.objects (.text name) = some (.mapping fields) ∧
        (∀ ks v, (Value.mapping fields).Leaf ks v ↔
          ∃ p, ks = segmentKeys p ∧ lastAt (writesTo name streams.flatten) p = some v ∧
            ¬ Obstructed (writesTo name streams.flatten) p) ∧
        ∀ ks inner, (Value.mapping fields).at? ks = some (.mapping inner) →
          ∃ ls v, ls ≠ [] ∧ (Value.mapping fields).Leaf (ks ++ ls) v) ∧
      s.dropped = droppedFrom streams.flatten := by
  obtain ⟨s, hs, hassembled⟩ := assembled_addStreams streams hp
  refine ⟨s, hs, hassembled.names, fun name hname => ?_, hassembled.dropped⟩
  obtain ⟨fields, hget, hholds⟩ := hassembled.object name hname
  exact ⟨fields, hget, hholds.leaf_iff, fun _ _ hat => hholds.leads_to_leaf hat⟩

/-- A value that is refused under a leaf, and a leaf that replaces what was below it: the object of
    `a.1` keeps `b` and loses `b.c`, and the metric of `a.2` has an object although it is
    dropped. -/
theorem addStreams_closed_form_conflicts :
    ∃ s, Snapshot.empty.addStreams
        ([[("a.1.b.c", 6), ("a.2.metric.x", 7)], [("a.1.b", 5)]].map Aggregator.stream) =
          (s, none) ∧
      s.objects.map Prod.fst = [.text "a.1", .text "a.2"] ∧
      (∃ fields, Fields.get? s.objects (.text "a.1") = some (.mapping fields) ∧
        (Value.mapping fields).Leaf [.text "b"] (.int 5)) ∧
      s.dropped = [⟨"a.2.metric.x", "a.2", "metric.x"⟩] := by
  obtain ⟨s, hs, hnames, hobject, hdropped⟩ := addStreams_closed_form
    [[("a.1.b.c", 6), ("a.2.metric.x", 7)], [("a.1.b", 5)]] (by decide +kernel)
  obtain ⟨fields, hget, hleaf, -⟩ := hobject "a.1" (by decide +kernel)
  refine ⟨s, hs, by rw [hnames]; rfl, ⟨fields, hget, (hleaf _ _).2 ⟨["b"], rfl, rfl, ?_⟩⟩, ?_⟩
  · decide +kernel
  · rw [hdropped]
    decide +kernel

end MetricDocs.Snapshot
