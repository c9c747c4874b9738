/-
  What stands in one object of a snapshot.

  * `mem_writesTo_iff` and `Survives.exists_metric`: the writes to an object are its name and
    component, then its metrics, so a number in it is that of a metric;
  * `lastAt_writesTo_append` and `lastAt_writesTo_of_ne`: the last metric at a place is what was
    written there last, and without one it is what the object was given first;
  * `obstructed_of_paths`: what obstructs a place depends on the paths alone;
  * `Holds.leaf_of_firstWrites`: name and component stand unless a metric goes to their place;
  * `Holds.get?_eq_none` and `Holds.exists_get?`: an object has a field iff the place of a metric
    begins with it;
  * `Holds.leaf_of_last`: the last metric at its place stands there unless it is obstructed.
-/
import MetricDocs.Proofs.Snapshot.Losses

namespace MetricDocs.Snapshot

section
variable {ms pre post : Table} {name : String} {fields : Fields} {p : List String} {v : Value}

theorem mem_writesTo_iff : (p, v) ∈ writesTo name ms ↔
    p = ["metric"] ∧ v = .text name ∨ p = ["component"] ∧ v = .text (Path.head name) ∨
      ∃ m ∈ ms, objectOf m.1 = name ∧ p = placeOf m.1 ∧ v = .int m.2 := by
  simp only [writesTo, firstWrites, List.mem_append, List.mem_cons, List.not_mem_nil, or_false,
    Prod.mk.injEq, List.mem_map, List.mem_filter, decide_eq_true_eq, or_assoc]
  refine or_congr_right (or_congr_right (exists_congr fun m => ?_))
  rw [and_assoc]
  exact and_congr_right fun _ => and_congr_right fun _ => and_congr eq_comm eq_comm

theorem Survives.exists_metric {n : Int} (h : Survives (writesTo name ms) p (.int n)) :
    ∃ m ∈ ms, objectOf m.1 = name ∧ placeOf m.1 = p ∧ m.2 = n := by
  rcases mem_writesTo_iff.1 (mem_of_lastAt h.1) with ⟨-, htext⟩ | ⟨-, htext⟩ | ⟨m, hm, ho, hp, hv⟩
  · cases htext
  · cases htext
  · cases hv
    exact ⟨m, hm, ho, hp.symm, rfl⟩

theorem lastAt_writesTo_append (m : String × Int) :
    lastAt (writesTo name (ms ++ [m])) p =
      if objectOf m.1 = name ∧ placeOf m.1 = p then some (.int m.2)
      else lastAt (writesTo name ms) p := by
  by_cases hname : objectOf m.1 = name
  · subst hname
    rw [writesTo_append_self, lastAt_append]
    simp
  · rw [writesTo_append_of_ne hname, if_neg fun h => hname h.1]

theorem lastAt_writesTo_of_ne (hp : ∀ m ∈ ms, objectOf m.1 = name → placeOf m.1 ≠ p) :
    lastAt (writesTo name ms) p = lastAt (firstWrites name) p := by
  refine lastAt_append_of_ne (List.forall_mem_map.2 fun m hm => ?_)
  obtain ⟨hm, hname⟩ := List.mem_filter.1 hm
  exact hp m hm (by simpa using hname)

theorem obstructed_of_paths {ms' : Table} (hpaths : ∀ path ∈ ms.paths, path ∈ ms'.paths)
    (h : Obstructed (writesTo name ms) p) : Obstructed (writesTo name ms') p := by
  obtain ⟨⟨q, w⟩, hw, hq, hne⟩ := h
  rcases mem_writesTo_iff.1 hw with hfirst | hfirst | ⟨m, hm, hname, rfl, -⟩
  · exact ⟨(q, w), mem_writesTo_iff.2 (Or.inl hfirst), hq, hne⟩
  · exact ⟨(q, w), mem_writesTo_iff.2 (Or.inr (Or.inl hfirst)), hq, hne⟩
  · obtain ⟨m', hm', hpath⟩ := List.mem_map.1 (hpaths m.1 (List.mem_map_of_mem hm))
    rw [← hpath] at hname hq hne
    exact ⟨(placeOf m'.1, .int m'.2),
      mem_writesTo_iff.2 (Or.inr (Or.inr ⟨m', hm', hname, rfl, rfl⟩)), hq, hne⟩

/-- **Name and component stand in an object** unless a metric goes to their place. -/
theorem Holds.leaf_of_firstWrites (h : Holds (writesTo name ms) fields)
    (hv : (p, v) ∈ firstWrites name) (hp : ∀ m ∈ ms, objectOf m.1 = name → placeOf m.1 ≠ p) :
    (Value.mapping fields).Leaf (segmentKeys p) v := by
  rw [h.survives_iff, Survives, lastAt_writesTo_of_ne hp]
  rcases List.mem_pair.1 hv with heq | heq <;> cases heq
  · exact ⟨rfl, not_obstructed_singleton _⟩
  · exact ⟨rfl, not_obstructed_singleton _⟩

/-- **A field that no metric of the object begins with** is not there. -/
theorem Holds.get?_eq_none (h : Holds (writesTo name ms) fields) {s : String}
    (hmetric : s ≠ "metric") (hcomponent : s ≠ "component")
    (hs : ∀ m ∈ ms, objectOf m.1 = name → (placeOf m.1).head? ≠ some s) :
    Fields.get? fields (.text s) = none := by
  by_contra hget
  obtain ⟨u, hu⟩ := Option.ne_none_iff_exists'.1 hget
  have hat : (Value.mapping fields).at? [.text s] = some u := by
    rw [Value.at?_mapping_cons, hu, Option.bind_some, Value.at?_nil]
  obtain ⟨ls, w, hw⟩ : ∃ ls w, (Value.mapping fields).Leaf ([.text s] ++ ls) w := by
    cases hmapping : u.isMapping with
    | false => exact ⟨[], u, by rwa [List.append_nil], hmapping⟩
    | true =>
      obtain ⟨inner, rfl⟩ := Value.isMapping_eq_true_iff.1 hmapping
      obtain ⟨ls, w, -, hw⟩ := h.below [.text s] inner (List.cons_ne_nil _ _) hat
      exact ⟨ls, w, hw⟩
  -- the leaf goes back to a write, and each write is to another field
  obtain ⟨q, hq, hsurvives⟩ := (h.leaf_iff _ _).1 hw
  have hhead : q.head? = some s := by
    cases q with
    | nil => cases hq
    | cons t q =>
      cases hq
      rfl
  rcases mem_writesTo_iff.1 (mem_of_lastAt hsurvives.1) with
    ⟨rfl, -⟩ | ⟨rfl, -⟩ | ⟨m, hm, ho, rfl, -⟩
  · exact hmetric (Option.some.inj hhead).symm
  · exact hcomponent (Option.some.inj hhead).symm
  · exact hs m hm ho hhead

/-- **A field that a metric of the object begins with** is there. -/
theorem Holds.exists_get? (h : Holds (writesTo name ms) fields) {m : String × Int} (hm : m ∈ ms)
    (ho : objectOf m.1 = name) {s : String} (hs : (placeOf m.1).head? = some s) :
    ∃ u, Fields.get? fields (.text s) = some u := by
  have hmem := mem_writesTo_of_mem hm
  rw [ho] at hmem
  obtain ⟨q, u, hq, hsurvives⟩ := exists_survives_prefix hmem
  obtain ⟨t, q, rfl⟩ := List.exists_cons_of_ne_nil
    (ne_nil_of_mem_writesTo (mem_of_lastAt hsurvives.1))
  obtain ⟨rest, hrest⟩ := hq
  have hrest : t :: q ++ rest = placeOf m.1 := hrest
  rw [← hrest] at hs
  cases hs
  obtain ⟨w, hw, -⟩ := Value.leaf_cons_iff.1 (h.survives_iff.2 hsurvives)
  exact ⟨w, hw⟩

/-- **The last metric at its place stands there** unless it is obstructed. -/
theorem Holds.leaf_of_last {m : String × Int}
    (h : Holds (writesTo (objectOf m.1) (pre ++ m :: post)) fields) (hlast : ¬ Superseded post m)
    (hfree : ¬ Obstructed (writesTo (objectOf m.1) (pre ++ m :: post)) (placeOf m.1)) :
    (Value.mapping fields).Leaf (segmentKeys (placeOf m.1)) (.int m.2) :=
  h.survives_iff.2 ⟨lastAt_of_not_superseded hlast, hfree⟩

end

end MetricDocs.Snapshot
