/-
  The metrics of an aggregator and their snapshot.

  * `paths a`, `metrics a stats` and `current a stats path`: the paths of all metrics, the metrics
    in the order of assembly, and the value that counts at a path;
  * `exists_last`: the value that counts is the last one at its path, and `lastAt_of_current`: the
    last one at its place, if no other path shares object and field;
  * `exists_assemble` and `exists_stats`: the metrics are assembled without failure iff there are
    stats of the system and all paths can be grouped, and then into the snapshot they leave;
  * `formed_assemble`: the objects of the snapshot are of the form of the metrics.
-/
import MetricDocs.Proofs.Aggregator.Runs
import MetricDocs.Proofs.Snapshot.Forms
import MetricDocs.Proofs.Snapshot.Losses

namespace MetricDocs.Aggregator

/-- The paths of all metrics, the system's own included. -/
def paths (a : Aggregator) : List String :=
  a.store.counters.paths ++ a.store.gauges.paths ++ a.store.timers.paths ++
    ["system.uptime", "system.goroutines"]

/-- The metrics in the order of assembly. -/
def metrics (a : Aggregator) (stats : Table) : Table :=
  a.store.counterSnapshot ++ a.store.timerSnapshot ++ stats

/-- The value that counts at a path: the system's own, else the timer's, else the gauge's, else the
    counter's. -/
def current (a : Aggregator) (stats : Table) (path : String) : Option Int :=
  (Table.get? stats path).or ((Table.get? a.store.timers path).or
    ((Table.get? a.store.gauges path).or (Table.get? a.store.counters path)))

section
variable {a : Aggregator} {stats : Table} {path : String} {n : Int}

theorem paths_systemStats (h : a.systemStats = .ok stats) :
    stats.paths = ["system.uptime", "system.goroutines"] := by
  rw [systemStats] at h
  split at h
  · cases h
  · cases h
    rfl

theorem systemStats_eq (h : Decimal.truncate? ((a.clock.mono - a.started) * 1000.0) = some n) :
    a.systemStats = .ok [("system.uptime", n), ("system.goroutines", a.clock.threads)] := by
  rw [systemStats, Value.toWhole, h]

/-- The stats of the system at the start. -/
def startStats : Table := [("system.uptime", 0), ("system.goroutines", 1)]

theorem systemStats_start (hclock : a.clock = .start) (hstarted : a.started = Clock.start.mono) :
    a.systemStats = .ok startStats := by
  have hstats := @systemStats_eq a 0 (by rw [hclock, hstarted]; decide +kernel)
  rwa [hclock] at hstats

theorem mem_paths_metrics (h : a.systemStats = .ok stats) :
    path ∈ (a.metrics stats).paths ↔ path ∈ a.paths := by
  rw [metrics, Table.paths_append, Table.paths_append, paths_systemStats h, paths,
    List.mem_append, List.mem_append, Store.counterSnapshot, Table.mem_paths_overlay,
    ← List.mem_append, ← List.mem_append, ← List.mem_append]
  rfl

theorem mem_paths_of_mem (h : a.systemStats = .ok stats) {m : String × Int}
    (hm : m ∈ a.metrics stats) : m.1 ∈ a.paths :=
  (mem_paths_metrics h).1 (List.mem_map_of_mem hm)

theorem get?_reverse_metrics (hd : a.store.Distinct) (h : a.systemStats = .ok stats) :
    Table.get? (a.metrics stats).reverse path = a.current stats path := by
  have hstats : stats.paths.Nodup := by
    rw [paths_systemStats h]
    decide
  have htimers : a.store.timerSnapshot.paths.Nodup := hd .timer
  have hcounters : a.store.counterSnapshot.paths.Nodup := Table.nodup_overlay (hd .counter) _
  rw [metrics, List.reverse_append, List.reverse_append, Table.get?_append, Table.get?_append,
    Table.get?_reverse hstats, Table.get?_reverse htimers, Table.get?_reverse hcounters,
    Store.counterSnapshot, @Table.get?_overlay a.store.gauges (hd .gauge)]
  rfl

theorem exists_current (hd : a.store.Distinct) (h : a.systemStats = .ok stats)
    (hpath : path ∈ a.paths) : ∃ n, a.current stats path = some n := by
  rw [← mem_paths_metrics h, ← List.mem_reverse, ← Table.paths_reverse] at hpath
  rw [← get?_reverse_metrics hd h]
  exact Table.exists_get? hpath

/-- **The value that counts is the last one at its path.** -/
theorem exists_last (hd : a.store.Distinct) (h : a.systemStats = .ok stats)
    (hn : a.current stats path = some n) :
    ∃ pre post, a.metrics stats = pre ++ (path, n) :: post ∧ path ∉ Table.paths post := by
  rw [← get?_reverse_metrics hd h] at hn
  obtain ⟨pre, post, hsplit, hpre⟩ := Table.exists_split hn
  refine ⟨post.reverse, pre.reverse, ?_, ?_⟩
  · rw [← List.reverse_reverse (a.metrics stats), hsplit]
    simp
  · rwa [Table.paths_reverse, List.mem_reverse]

/-- **The value that counts is the last one at its place**, if no other path shares it. -/
theorem lastAt_of_current (hd : a.store.Distinct) (h : a.systemStats = .ok stats)
    (halone : ∀ p ∈ a.paths, Path.keyOf p = Path.keyOf path → p = path)
    (hn : a.current stats path = some n) :
    Snapshot.lastAt (Snapshot.writesTo (Snapshot.objectOf path) (a.metrics stats))
      (Snapshot.placeOf path) = some (.int n) := by
  obtain ⟨pre, post, hsplit, hpost⟩ := exists_last hd h hn
  have hlast : ¬ Snapshot.Superseded post (path, n) := by
    rintro ⟨m, hm, hkey⟩
    have hmem : m ∈ a.metrics stats := by
      rw [hsplit]
      exact List.mem_append_right _ (List.mem_cons_of_mem _ hm)
    have hname : m.1 = path := halone m.1 (mem_paths_of_mem h hmem) hkey
    exact hpost (hname ▸ List.mem_map_of_mem hm)
  rw [hsplit]
  exact Snapshot.lastAt_of_not_superseded (m := (path, n)) hlast

/-! ## Assembly -/

theorem exists_assemble (h : a.systemStats = .ok stats)
    (hp : ∀ m ∈ a.metrics stats, Path.Groupable m.1) :
    ∃ s, a.assemble = (s, none) ∧ Snapshot.Assembled (a.metrics stats) s := by
  rw [metrics] at hp
  obtain ⟨hstore, hstats⟩ := List.forall_mem_append.1 hp
  obtain ⟨s, hs, hassembled⟩ := Snapshot.assembled_addStreams
    [a.store.counterSnapshot, a.store.timerSnapshot] (by simpa using hstore)
  obtain ⟨t, ht, hassembled⟩ := hassembled.addAll stats hstats
  refine ⟨t, ?_, by simpa [metrics] using hassembled⟩
  rw [List.map_cons, List.map_cons, List.map_nil] at hs
  rw [assemble, hs]
  simp only
  rw [h]
  exact ht

theorem exists_assembled (h : a.systemStats = .ok stats) (hp : ∀ p ∈ a.paths, Path.Groupable p) :
    ∃ s, a.assemble = (s, none) ∧ Snapshot.Assembled (a.metrics stats) s :=
  exists_assemble h fun _ hm => hp _ (mem_paths_of_mem h hm)

theorem groupable_of_assemble {s : Snapshot} (h : a.assemble = (s, none)) :
    ∃ stats, a.systemStats = .ok stats ∧ ∀ m ∈ a.metrics stats, Path.Groupable m.1 := by
  rw [assemble] at h
  rcases heq : Snapshot.empty.addStreams [stream a.store.counterSnapshot,
    stream a.store.timerSnapshot] with ⟨t, _ | e⟩
  · rw [heq] at h
    cases hstats : a.systemStats with
    | error e => rw [hstats] at h; cases h
    | ok stats =>
      rw [hstats] at h
      have hstore := @Snapshot.groupable_of_addStreams
        [a.store.counterSnapshot, a.store.timerSnapshot] _ _ heq
      exact ⟨stats, rfl, List.forall_mem_append.2
        ⟨by simpa using hstore, Snapshot.groupable_of_addAll h⟩⟩
  · rw [heq] at h
    cases h

theorem exists_stats {s : Snapshot} (h : a.assemble = (s, none)) :
    ∃ stats, a.systemStats = .ok stats ∧ Snapshot.Assembled (a.metrics stats) s := by
  obtain ⟨stats, hstats, hp⟩ := groupable_of_assemble h
  obtain ⟨t, ht, hassembled⟩ := exists_assemble hstats hp
  cases h.symm.trans ht
  exact ⟨stats, hstats, hassembled⟩

theorem assembled_of_assemble {s : Snapshot} (hs : a.assemble = (s, none))
    (h : a.systemStats = .ok stats) : Snapshot.Assembled (a.metrics stats) s := by
  obtain ⟨_, h', hassembled⟩ := exists_stats hs
  cases h.symm.trans h'
  exact hassembled

/-- **The objects of the snapshot are of the form of the metrics.** -/
theorem formed_assemble {P : Key → Prop} {L : Value → Prop} (hP : ∀ k, P k → k.IsText)
    (hT : ∀ s, P (.text s)) (hL : ∀ s, L (.text s)) {s : Snapshot} (hs : a.assemble = (s, none))
    (h : a.systemStats = .ok stats) (hn : ∀ m ∈ a.metrics stats, L (.int m.2)) :
    (Value.mapping s.objects).Formed P L := by
  obtain ⟨hstore, hstats⟩ := List.forall_mem_append.1 hn
  obtain ⟨hcounters, htimers⟩ := List.forall_mem_append.1 hstore
  have hstream : ∀ t : Table, (∀ m ∈ t, L (.int m.2)) → ∀ m ∈ stream t, m.2.Formed P L := by
    intro t ht
    exact List.forall_mem_map.2 ht
  have hstreams := Snapshot.formed_addStreams hP hT hL Value.formed_empty
    (s := Snapshot.empty) (List.forall_mem_cons.2 ⟨hstream _ hcounters,
      List.forall_mem_singleton.2 (hstream _ htimers)⟩)
  rw [assemble] at hs
  rcases heq : Snapshot.empty.addStreams [stream a.store.counterSnapshot,
    stream a.store.timerSnapshot] with ⟨t, _ | e⟩
  · rw [heq] at hs hstreams
    simp only [h] at hs
    have hall := Snapshot.formed_addAll hP hT hL hstreams (hstream _ hstats)
    rwa [hs] at hall
  · rw [heq] at hs
    cases hs

end

end MetricDocs.Aggregator
