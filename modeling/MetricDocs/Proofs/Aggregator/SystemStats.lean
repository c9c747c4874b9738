/-
  The system's own metrics in a snapshot.

  They are assembled last, so nothing replaces them; but a metric of the path `system` stands where
  they lead through.

  * `StatsShown objects uptime threads`: the object of the system holds both in the field `system`;
  * `obstructed_system_iff`: a field of the system is obstructed iff some metric has the path
    `system`;
  * `stats_shown_iff`: so the two are shown iff there is no such metric, and are reported as dropped
    if there is one.
-/
import MetricDocs.Proofs.Aggregator.Metrics
import MetricDocs.Proofs.Path.Grouping
import MetricDocs.Proofs.Snapshot.Objects

namespace MetricDocs.Aggregator

open Snapshot (objectOf placeOf writesTo Obstructed Superseded Undercut Holds Assembled)

/-- The object of the system holds its uptime and the number of threads. -/
def StatsShown (objects : Fields) (uptime threads : Int) : Prop :=
  ∃ system, Fields.get? objects (.text "system") = some (.mapping system) ∧
    (Value.mapping system).at? [.text "system", .text "uptime"] = some (.int uptime) ∧
    (Value.mapping system).at? [.text "system", .text "goroutines"] = some (.int threads)

theorem exists_uptime {a : Aggregator} {stats : Table} (h : a.systemStats = .ok stats) :
    ∃ uptime, stats = [("system.uptime", uptime), ("system.goroutines", a.clock.threads)] := by
  rw [systemStats] at h
  split at h
  · cases h
  · rename_i uptime _
    cases h
    exact ⟨uptime, rfl⟩

theorem log_buildSnapshot (a : Aggregator) :
    a.buildSnapshot.1.log = a.log ++ a.assemble.1.dropped.map droppedRecord := by
  rw [buildSnapshot_fst]

/-! ## The field of the system -/

theorem keyOf_system : Path.keyOf "system" = ⟨"system", "system"⟩ := by rfl

theorem keyOf_uptime : Path.keyOf "system.uptime" = ⟨"system", "system.uptime"⟩ := by rfl

theorem keyOf_goroutines : Path.keyOf "system.goroutines" = ⟨"system", "system.goroutines"⟩ := by
  rfl

theorem objectOf_system : objectOf "system" = "system" := by rw [objectOf, keyOf_system]

theorem placeOf_system : placeOf "system" = ["system"] := by rfl

theorem placeOf_uptime : placeOf "system.uptime" = ["system", "uptime"] := by rfl

theorem placeOf_goroutines : placeOf "system.goroutines" = ["system", "goroutines"] := by rfl

theorem keyOf_eq_system_iff {path : String} :
    Path.keyOf path = Path.keyOf "system" ↔ path = "system" := by
  have hindex : Path.isIndex "system" = .ok false := rfl
  rw [keyOf_system]
  refine Path.keyOf_eq_self_iff (by decide) ?_
  simp [hindex]

/-- **A field of the system is obstructed** iff some metric has the path `system`. -/
theorem obstructed_system_iff {ms : Table} {x : String} :
    Obstructed (writesTo "system" ms) ["system", x] ↔ "system" ∈ ms.paths := by
  constructor
  · rintro ⟨⟨p, v⟩, hw, hp, hne⟩
    have hsystem : p = ["system"] := by
      rcases List.prefix_cons_iff.1 hp with rfl | ⟨q, rfl, hq⟩
      · exact absurd rfl (Snapshot.ne_nil_of_mem_writesTo hw)
      · rcases List.prefix_cons_iff.1 hq with rfl | ⟨r, rfl, hr⟩
        · rfl
        · exact absurd (congrArg _ (congrArg _ (List.prefix_nil.1 hr))) hne
    subst hsystem
    -- `metric` and `component` are other fields, so it is a metric that stands in the way
    rcases Snapshot.mem_writesTo_iff.1 hw with ⟨h, -⟩ | ⟨h, -⟩ | ⟨m, hm, ho, hfield, -⟩
    · simp at h
    · simp at h
    · have hkey : Path.keyOf m.1 = Path.keyOf "system" :=
        (Snapshot.keyOf_eq_iff (m := ("system", m.2))).2
          ⟨ho.trans objectOf_system.symm, hfield.symm.trans placeOf_system.symm⟩
      rw [← keyOf_eq_system_iff.1 hkey]
      exact List.mem_map_of_mem hm
  · intro h
    obtain ⟨m, hm, hname⟩ := List.mem_map.1 h
    have hmem := Snapshot.mem_writesTo_of_mem hm
    rw [hname, objectOf_system, placeOf_system] at hmem
    exact ⟨_, hmem, ⟨[x], rfl⟩, by simp⟩

/-! ## What a snapshot shows -/

section
variable {a : Aggregator} {stats : Table} {s : Snapshot}

/-- Each of the system's metrics is a field of the system, and none of those behind it goes to the
    same field or to one that leads there. -/
theorem exists_split_stat (h : a.systemStats = .ok stats) {m : String × Int} (hm : m ∈ stats) :
    ∃ x pre post, Path.keyOf m.1 = ⟨"system", m.1⟩ ∧ placeOf m.1 = ["system", x] ∧
      a.metrics stats = pre ++ m :: post ∧ ¬ Superseded post m ∧ ¬ Undercut post m := by
  obtain ⟨uptime, rfl⟩ := exists_uptime h
  rcases List.mem_pair.1 hm with rfl | rfl
  · refine ⟨"uptime", _, [("system.goroutines", a.clock.threads)], keyOf_uptime, placeOf_uptime,
      rfl, ?_, ?_⟩
    · simp [Superseded, keyOf_goroutines, keyOf_uptime]
    · simp [Undercut, placeOf_goroutines, placeOf_uptime]
  · refine ⟨"goroutines", a.store.counterSnapshot ++ a.store.timerSnapshot ++
      [("system.uptime", uptime)], [], keyOf_goroutines, placeOf_goroutines, ?_, ?_, ?_⟩
    · rw [metrics, List.append_assoc _ [_]]
      rfl
    · simp [Superseded]
    · simp [Undercut]

theorem exists_system (h : a.systemStats = .ok stats) (hs : Assembled (a.metrics stats) s) :
    ∃ system, Fields.get? s.objects (.text "system") = some (.mapping system) ∧
      Holds (writesTo "system" (a.metrics stats)) system := by
  have hpath : "system.uptime" ∈ (a.metrics stats).paths := by
    rw [mem_paths_metrics h]
    exact List.mem_append_right _ List.mem_cons_self
  obtain ⟨m, hm, hname⟩ := List.mem_map.1 hpath
  have hobject : objectOf m.1 = "system" := by
    rw [hname, objectOf, keyOf_uptime]
  exact hs.object "system" (hobject ▸ Snapshot.mem_objectNames_of_mem hm)

/-- **A metric of the system stands in its field** iff no metric has the path `system`. -/
theorem at?_stat_iff (h : a.systemStats = .ok stats) {m : String × Int} (hm : m ∈ stats)
    {system : Fields} (hholds : Holds (writesTo "system" (a.metrics stats)) system) :
    (Value.mapping system).at? (segmentKeys (placeOf m.1)) = some (.int m.2) ↔
      "system" ∉ a.paths := by
  obtain ⟨x, pre, post, hkey, hplace, hsplit, hlast, -⟩ := exists_split_stat h hm
  have hobject : objectOf m.1 = "system" := by rw [objectOf, hkey]
  rw [← mem_paths_metrics h, ← @obstructed_system_iff _ x, ← hplace]
  constructor
  · intro hat
    exact (hholds.survives_iff.1 ⟨hat, rfl⟩).2
  · intro hfree
    rw [← hobject, hsplit] at hholds hfree
    exact (hholds.leaf_of_last hlast hfree).1

theorem mem_dropped_of_system (h : a.systemStats = .ok stats) (hs : Assembled (a.metrics stats) s)
    (hpath : "system" ∈ a.paths) {m : String × Int} (hm : m ∈ stats) :
    (⟨m.1, ⟨"system", m.1⟩⟩ : Dropped) ∈ s.dropped := by
  obtain ⟨x, pre, post, hkey, hplace, hsplit, -, hcut⟩ := exists_split_stat h hm
  have hobject : objectOf m.1 = "system" := by rw [objectOf, hkey]
  rw [← mem_paths_metrics h, ← @obstructed_system_iff _ x, ← hplace, ← hobject, hsplit,
    Snapshot.obstructed_iff] at hpath
  rw [hs.dropped, Snapshot.mem_droppedFrom]
  exact ⟨pre, m, post, hsplit, hpath.resolve_right hcut, by rw [hkey]⟩

theorem at?_system (h : a.systemStats = .ok stats) (hd : a.store.Distinct)
    (hpath : "system" ∈ a.paths) {system : Fields}
    (hholds : Holds (writesTo "system" (a.metrics stats)) system) :
    ∃ n, a.current stats "system" = some n ∧
      (Value.mapping system).at? [.text "system"] = some (.int n) := by
  obtain ⟨n, hn⟩ := exists_current hd h hpath
  have hlast := lastAt_of_current hd h (fun p _ => keyOf_eq_system_iff.1) hn
  rw [objectOf_system, placeOf_system] at hlast
  exact ⟨n, hn, (hholds.survives_iff.2 ⟨hlast, Snapshot.not_obstructed_singleton _⟩).1⟩

end

/-- **Whether a snapshot shows the system's own metrics.**  After every run, a snapshot that could
    be assembled has an object of the system, and that holds both of them exactly if no counter,
    gauge or timer has the path `system`.  If one has, its value stands there instead, and a warning
    about each of the two is logged. -/
theorem stats_shown_iff {fields : Value} {a : Aggregator} (h : Reached fields a) {objects : Fields}
    (hbuild : a.buildSnapshot.2 = .ok objects) :
    ∃ uptime stats system warnings, a.systemStats = .ok stats ∧
      stats = [("system.uptime", uptime), ("system.goroutines", a.clock.threads)] ∧
      Fields.get? objects (.text "system") = some (.mapping system) ∧
      a.buildSnapshot.1.log = a.log ++ warnings ∧
      (StatsShown objects uptime a.clock.threads ↔ "system" ∉ a.paths) ∧
      ("system" ∈ a.paths →
        (∃ n, a.current stats "system" = some n ∧
          (Value.mapping system).at? [.text "system"] = some (.int n)) ∧
        ∀ m ∈ stats, droppedRecord ⟨m.1, ⟨"system", m.1⟩⟩ ∈ warnings) := by
  obtain ⟨s, hs, rfl⟩ := (a.buildSnapshot_cases.2.2 objects).1 hbuild
  obtain ⟨stats, hstats, hassembled⟩ := exists_stats hs
  obtain ⟨system, hget, hholds⟩ := exists_system hstats hassembled
  obtain ⟨uptime, hpair⟩ := exists_uptime hstats
  have hat : ∀ m ∈ stats, _ := fun m hm => at?_stat_iff hstats hm hholds
  have huptime := hat ("system.uptime", uptime) (by simp [hpair])
  have hthreads := hat ("system.goroutines", a.clock.threads) (by simp [hpair])
  rw [placeOf_uptime] at huptime
  rw [placeOf_goroutines] at hthreads
  refine ⟨uptime, stats, system, s.dropped.map droppedRecord, hstats, hpair, hget, ?_, ?_, ?_⟩
  · rw [log_buildSnapshot, hs]
  · constructor
    · rintro ⟨system', hget', hshown, -⟩
      cases hget.symm.trans hget'
      exact huptime.1 hshown
    · intro hfree
      exact ⟨system, hget, huptime.2 hfree, hthreads.2 hfree⟩
  · intro hpath
    refine ⟨at?_system hstats h.distinct hpath hholds, fun m hm => ?_⟩
    exact List.mem_map_of_mem (mem_dropped_of_system hstats hassembled hpath hm)

/-- A gauge below one of the system's fields does not hide it. -/
theorem stats_shown_above_gauge : ∃ a objects, Reached (.mapping StaticFields.default) a ∧
    "system.uptime.days" ∈ a.paths ∧ a.buildSnapshot.2 = .ok objects ∧
    StatsShown objects 0 1 := by
  have hreached := reached_after
    [.store (.update ⟨.gauge, "system.uptime.days", []⟩ .replace (.int 3))]
  have hstats : (after [.store (.update ⟨.gauge, "system.uptime.days", []⟩
    .replace (.int 3))]).systemStats = .ok startStats := systemStats_start rfl rfl
  obtain ⟨s, hs, -⟩ := exists_assembled hstats (by
    show ∀ p ∈ ["system.uptime.days", "system.uptime", "system.goroutines"], Path.Groupable p
    decide)
  have hbuild := ((buildSnapshot_cases _).2.2 s.objects).2 ⟨s, hs, rfl⟩
  obtain ⟨uptime, stats, system, warnings, hok, hpair, -, -, hshown, -⟩ :=
    stats_shown_iff hreached hbuild
  cases hstats.symm.trans hok
  cases hpair
  refine ⟨_, s.objects, hreached, List.mem_cons_self, hbuild, hshown.2 ?_⟩
  show "system" ∉ ["system.uptime.days", "system.uptime", "system.goroutines"]
  decide

/-- A counter of the path `system` hides both. -/
theorem stats_hidden_by_counter : ∃ a objects uptime, Reached (.mapping StaticFields.default) a ∧
    a.buildSnapshot.2 = .ok objects ∧
    a.systemStats = .ok [("system.uptime", uptime), ("system.goroutines", a.clock.threads)] ∧
    ¬ StatsShown objects uptime a.clock.threads := by
  have hreached := reached_after [.store (.update ⟨.counter, "system", []⟩ .add (.int 5))]
  have hstats : (after [.store (.update ⟨.counter, "system", []⟩ .add (.int 5))]).systemStats =
    .ok startStats := systemStats_start rfl rfl
  obtain ⟨s, hs, hassembled⟩ := exists_assembled hstats (by
    show ∀ p ∈ ["system", "system.uptime", "system.goroutines"], Path.Groupable p
    decide)
  have hbuild := ((buildSnapshot_cases _).2.2 s.objects).2 ⟨s, hs, rfl⟩
  obtain ⟨system, hget, hholds⟩ := exists_system hstats hassembled
  have huptime := at?_stat_iff hstats (m := ("system.uptime", 0)) List.mem_cons_self hholds
  rw [placeOf_uptime] at huptime
  refine ⟨_, s.objects, 0, hreached, hbuild, hstats, ?_⟩
  rintro ⟨system', hget', hshown, -⟩
  cases hget.symm.trans hget'
  exact huptime.1 hshown List.mem_cons_self

end MetricDocs.Aggregator
