/-
  How far metrics are isolated from each other.

  One more handle costs no other object its document, up to two limits of long numbers: a path with
  a segment of too many digits cannot be grouped, and a counter beside a gauge of its path moves
  the gauge's value in front of others at the same place, one of which may be too long to be
  written.

  * `withHandle a handle`: the aggregator after a handle is made; at other places the last value is
    as before (`lastAt_without`), at its own it is as before or zero (`lastAt_zeroed`), unless the
    counter of a gauge was made;
  * `Isolated a b` and `isolated_iff`: a pass of `b` comes through and leaves no object out that one
    of `a` writes, and when that is so.
-/
import MetricDocs.Proofs.Aggregator.Emission
import MetricDocs.Proofs.Path.Grouping
import MetricDocs.Proofs.Store.Touching

namespace MetricDocs.Aggregator

open Snapshot (objectOf placeOf objectNames writesTo lastAt Obstructed Survives Assembled Holds)

/-! ## One more handle -/

/-- The aggregator after a handle is made. -/
def withHandle (a : Aggregator) (handle : Handle) : Aggregator :=
  (a.perform (.store (.touch handle))).1

section
variable {a : Aggregator} {handle : Handle} {stats ms ms' : Table} {name path : String}
variable {p : List String}

theorem mem_paths_withHandle :
    path ∈ (a.withHandle handle).paths ↔ path ∈ a.paths ∨ path = handle.path := by
  obtain ⟨kind, q, labels⟩ := handle
  have htouch : ∀ t : Table, path ∈ (t.touch q).paths ↔ path ∈ t.paths ∨ path = q := fun t =>
    Table.mem_paths_set
  cases kind <;>
    simp only [paths, withHandle, perform, Store.perform, Store.touch, Store.table,
      Store.withTable, List.mem_append, htouch] <;> tauto

theorem without_metrics (a : Aggregator) (handle : Handle) (stats : Table) :
    ((a.withHandle handle).metrics stats).without handle.path =
      (a.metrics stats).without handle.path := by
  obtain ⟨kind, q, labels⟩ := handle
  have htouch : ∀ t : Table, (t.touch q).without q = t.without q := fun t => Table.without_set t q _
  cases kind <;>
    simp only [metrics, withHandle, perform, Store.perform, Store.touch, Store.table,
      Store.withTable, Store.counterSnapshot, Store.timerSnapshot, Table.without_append,
      Table.without_overlay, htouch]

/-- The metrics have a zero more, unless the counter of a gauge was made. -/
theorem zeroed_metrics (h : handle.kind = .counter → handle.path ∉ a.store.gauges.paths)
    (stats : Table) :
    Table.Zeroed handle.path (a.metrics stats) ((a.withHandle handle).metrics stats) := by
  obtain ⟨kind, q, labels⟩ := handle
  cases kind with
  | counter =>
    have hzero := ((Table.zeroed_touch a.store.counters q).overlay (h rfl)).append []
      (a.store.timerSnapshot ++ stats)
    rwa [List.nil_append, List.nil_append, ← List.append_assoc, ← List.append_assoc] at hzero
  | gauge =>
    have hzero := (Table.zeroed_overlay_touch a.store.counters a.store.gauges q).append []
      (a.store.timerSnapshot ++ stats)
    rwa [List.nil_append, List.nil_append, ← List.append_assoc, ← List.append_assoc] at hzero
  | timer => exact (Table.zeroed_touch a.store.timers q).append a.store.counterSnapshot stats

theorem lastAt_without (h : ¬ (objectOf path = name ∧ placeOf path = p)) :
    lastAt (writesTo name (ms.without path)) p = lastAt (writesTo name ms) p := by
  induction ms using List.reverseRecOn with
  | nil => rfl
  | append_singleton ms m ih =>
    obtain ⟨q, n⟩ := m
    rw [Table.without_append, Snapshot.lastAt_writesTo_append]
    by_cases hq : q = path
    · subst hq
      rw [Table.without_cons_self, if_neg h, ← ih]
      exact congrArg (fun t => lastAt (writesTo name t) p) (List.append_nil _)
    · rw [Table.without_cons_of_ne hq]
      exact (Snapshot.lastAt_writesTo_append _).trans (by rw [ih])

theorem lastAt_zeroed (h : Table.Zeroed path ms ms') :
    lastAt (writesTo name ms') p = lastAt (writesTo name ms) p ∨
      lastAt (writesTo name ms') p = some (.int 0) := by
  rcases h with rfl | ⟨pre, mid, post, rfl, hmid, rfl⟩
  · exact Or.inl rfl
  · induction post using List.reverseRecOn with
    | nil =>
      rw [Snapshot.lastAt_writesTo_append]
      by_cases hplace : objectOf path = name ∧ placeOf path = p
      · exact Or.inr (if_pos hplace)
      · refine Or.inl ?_
        have hnone : mid.without path = [] :=
          List.filter_eq_nil_iff.2 fun e he => by simp [hmid e.1 (List.mem_map_of_mem he)]
        rw [if_neg hplace, List.append_nil, ← @lastAt_without (pre ++ mid) _ _ _ hplace,
          Table.without_append, hnone, List.append_nil, lastAt_without hplace]
    | append_singleton post m ih =>
      rw [← List.cons_append, ← List.append_assoc, ← List.append_assoc,
        Snapshot.lastAt_writesTo_append, Snapshot.lastAt_writesTo_append]
      split_ifs
      · exact Or.inl rfl
      · exact ih

theorem obstructed_withHandle (h : a.systemStats = .ok stats)
    (hob : Obstructed (writesTo name (a.metrics stats)) p) :
    Obstructed (writesTo name ((a.withHandle handle).metrics stats)) p := by
  have h' : (a.withHandle handle).systemStats = .ok stats := h
  refine Snapshot.obstructed_of_paths (fun path hpath => ?_) hob
  rw [mem_paths_metrics h', mem_paths_withHandle]
  exact Or.inl ((mem_paths_metrics h).1 hpath)

end

/-! ## Isolation -/

/-- A pass of `b` comes through, and writes a line for every object that a pass of `a` writes one
    for. -/
structure Isolated (a b : Aggregator) : Prop where
  completes : b.publishMetrics.2 = none
  keeps : ∀ lines, Emitted a lines → ∃ more, Emitted b more ∧
    ∀ name ∈ lines.map Prod.fst, name ∈ more.map Prod.fst

section
variable {fields : Value} {a : Aggregator} (h : Reached fields a)
variable (hsink : ∀ i, a.sink.writeFault i = none) (hpass : a.publishMetrics.2 = none)
variable (handle : Handle)
include h hsink hpass

/-- **When the pass after one more handle comes through.** -/
theorem completes_withHandle_iff : (a.withHandle handle).publishMetrics.2 = none ↔
    Path.Groupable handle.path ∧ ¬ (a.withHandle handle).ShowsLong handle.path := by
  have hstatics := StaticFields.settled_decode h.statics
  obtain ⟨base, hbase⟩ := exists_base hsink hpass
  obtain ⟨⟨stats, hstats, hgroupable, hshort⟩, hflush⟩ :=
    (completes_iff hstatics hbase hsink).1 hpass
  have hstats' : (a.withHandle handle).systemStats = .ok stats := hstats
  have hown : handle.path ∈ (a.withHandle handle).paths := mem_paths_withHandle.2 (Or.inr rfl)
  rw [@completes_iff (a.withHandle handle) base hstatics hbase hsink]
  constructor
  · rintro ⟨⟨_, h', hgroupable', hshort'⟩, -⟩
    cases hstats'.symm.trans h'
    refine ⟨hgroupable' _ hown, fun hlong => ?_⟩
    obtain ⟨n, hsurvives, hlong⟩ := hlong.exists_survives hstats' hown
    rw [hshort' _ _ n hsurvives] at hlong
    cases hlong
  · rintro ⟨hown', hlong⟩
    have hgroupable' : ∀ p ∈ (a.withHandle handle).paths, Path.Groupable p := by
      intro p hp
      rcases mem_paths_withHandle.1 hp with hp | rfl
      · exact hgroupable p hp
      · exact hown'
    obtain ⟨s, hs, hassembled⟩ := exists_assembled hstats' hgroupable'
    rw [showsLong_iff hs hstats' hassembled hown] at hlong
    refine ⟨⟨stats, hstats', hgroupable', fun name p n hsurvives => ?_⟩, hflush⟩
    -- a number at another place was there before
    by_cases hplace : objectOf handle.path = name ∧ placeOf handle.path = p
    · obtain ⟨rfl, rfl⟩ := hplace
      rw [← Bool.not_eq_true]
      exact fun hn => hlong ⟨n, hsurvives, hn⟩
    · refine hshort name p n ⟨?_, fun hob => hsurvives.2 (obstructed_withHandle hstats hob)⟩
      rw [← lastAt_without hplace, ← without_metrics a handle, lastAt_without hplace]
      exact hsurvives.1

/-- **Only the counter of a gauge** can bring a number to light that is too long. -/
theorem not_showsLong_withHandle
    (hkind : handle.kind = .counter → handle.path ∉ a.store.gauges.paths) :
    ¬ (a.withHandle handle).ShowsLong handle.path := by
  intro hlong
  have hstatics := StaticFields.settled_decode h.statics
  obtain ⟨base, hbase⟩ := exists_base hsink hpass
  obtain ⟨⟨stats, hstats, -, hshort⟩, -⟩ := (completes_iff hstatics hbase hsink).1 hpass
  have hstats' : (a.withHandle handle).systemStats = .ok stats := hstats
  obtain ⟨n, hsurvives, hlong⟩ :=
    hlong.exists_survives hstats' (mem_paths_withHandle.2 (Or.inr rfl))
  have hold : Decimal.tooLong n = false := by
    rcases @lastAt_zeroed _ _ (objectOf handle.path) _ (placeOf handle.path)
      (zeroed_metrics hkind stats) with heq | heq
    · exact hshort _ _ n
        ⟨heq ▸ hsurvives.1, fun hob => hsurvives.2 (obstructed_withHandle hstats hob)⟩
    · cases heq.symm.trans hsurvives.1
      exact Decimal.tooLong_eq_false_of_lt (by decide)
  rw [hold] at hlong
  cases hlong

/-- **How far metrics are isolated.**  After every run whose next pass comes through, over a sink
    that takes everything: with one more handle the pass still comes through and writes a line for
    every object that it writes one for without it, exactly if the handle's path can be grouped and
    the snapshot shows no number at its place that is too long to be written.  Such a number only
    shows if the counter of a gauge was made. -/
theorem isolated_iff :
    (∃ lines, Emitted a lines) ∧
      (Isolated a (a.withHandle handle) ↔
        Path.Groupable handle.path ∧ ¬ (a.withHandle handle).ShowsLong handle.path) ∧
      ((handle.kind = .counter → handle.path ∉ a.store.gauges.paths) →
        ¬ (a.withHandle handle).ShowsLong handle.path) := by
  have hcompletes := completes_withHandle_iff h hsink hpass handle
  obtain ⟨base, hbase⟩ := exists_base hsink hpass
  obtain ⟨⟨stats, hstats, -, -⟩, -⟩ :=
    (completes_iff (StaticFields.settled_decode h.statics) hbase hsink).1 hpass
  have hstats' : (a.withHandle handle).systemStats = .ok stats := hstats
  refine ⟨?_, ⟨fun hisolated => hcompletes.1 hisolated.completes, fun hlimits => ?_⟩,
    not_showsLong_withHandle h hsink hpass handle⟩
  · obtain ⟨lines, hlines, -⟩ := exists_emitted hsink hpass hstats
    exact ⟨lines, hlines⟩
  · have hpass' := hcompletes.2 hlimits
    refine ⟨hpass', fun lines hlines => ?_⟩
    obtain ⟨more, hmore, hnames⟩ := exists_emitted (a := a.withHandle handle) hsink hpass' hstats'
    refine ⟨more, hmore, fun name hname => ?_⟩
    obtain ⟨p, hp, rfl⟩ := (mem_objectNames_iff hstats).1 (hlines.mem_objectNames hstats hname)
    rw [hnames, mem_objectNames_iff hstats']
    exact ⟨p, mem_paths_withHandle.2 (Or.inl hp), rfl⟩

end

private theorem counter_completes :
    (after [.store (.update ⟨.counter, "a.1.b", []⟩ .add (.int 5))]).publishMetrics.2 = none := by
  obtain ⟨s, lines, -, -, hflush, -, -⟩ := documents_written
    (reached_after [.store (.update ⟨.counter, "a.1.b", []⟩ .add (.int 5))]) (fun _ => rfl)
    (systemStats_start rfl rfl)
    (fun m hm => Decimal.tooLong_eq_false_of_lt (by revert m; decide))
    (by decide +kernel)
  exact hflush fun _ => rfl

/-- A timer of the same object leaves it its line. -/
theorem isolated_from_timer : ∃ a : Aggregator, Reached (.mapping StaticFields.default) a ∧
    a.publishMetrics.2 = none ∧ Isolated a (a.withHandle ⟨.timer, "a.1.b.c", []⟩) := by
  have hreached := reached_after [.store (.update ⟨.counter, "a.1.b", []⟩ .add (.int 5))]
  obtain ⟨-, hisolated, hshort⟩ := isolated_iff hreached (fun _ => rfl) counter_completes
    ⟨.timer, "a.1.b.c", []⟩
  exact ⟨_, hreached, counter_completes,
    hisolated.2 ⟨by decide +kernel, hshort fun hkind => by cases hkind⟩⟩

/-- A path that ends in more digits than can be converted costs all objects their lines. -/
theorem not_isolated_from_digits : ∃ (a : Aggregator) (handle : Handle),
    Reached (.mapping StaticFields.default) a ∧ (∀ i, a.sink.writeFault i = none) ∧
    a.publishMetrics.2 = none ∧ (a.withHandle handle).publishMetrics.2 ≠ none ∧
    ¬ Isolated a (a.withHandle handle) := by
  have hreached := reached_after [.store (.update ⟨.counter, "a.1.b", []⟩ .add (.int 5))]
  have hfails : ((after [.store (.update ⟨.counter, "a.1.b", []⟩ .add (.int 5))]).withHandle
      ⟨.counter, Path.join ["x", String.ofList (List.replicate 4301 '1')], []⟩).publishMetrics.2 ≠
        none := by
    intro hpass
    refine Path.not_groupable_ones (n := 4301) (by decide) ?_
    exact ((completes_withHandle_iff hreached (fun _ => rfl) counter_completes _).1 hpass).1
  exact ⟨_, _, hreached, fun _ => rfl, counter_completes, hfails, fun h => hfails h.completes⟩

end MetricDocs.Aggregator
