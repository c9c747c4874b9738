/-
  What a flush reports and leaves.

  A snapshot lays the gauges over the counters in one go; a flush writes entry after entry into a
  report and zeroes them on the way.  Both come to the same.

  * `Table.eq_map_value`: a table is its paths with their values;
  * `Table.drain_eq`: to drain a table is to lay it over the report and to clear it;
  * `Table.paths_overlay`: what is laid over a table takes the places of the paths that are there,
    and what only it has follows in its order;
  * `Table.overlay_cleared`: zeros over zeros are the zeros of what is laid over what;
  * `Store.counterSnapshot_eq`: what the snapshot of the counters lists, and in which order;
  * `Store.flushCounters_fst` and `Store.flushCounters_snd`: a flush clears the tables and reports
    the snapshot, and so for the timers.
-/
import MetricDocs.Proofs.Store.Tables

namespace MetricDocs

namespace Table

section
variable {t u : Table} {p : String} {n : Int}

/-! ## Values -/

theorem value_cons (q : String) (n : Int) (t : Table) (p : String) :
    value ((q, n) :: t) p = if q = p then n else value t p := by
  rw [value, get?_cons]
  split_ifs <;> rfl

theorem value_set (t : Table) (p q : String) (n : Int) :
    value (set t p n) q = if p = q then n else value t q := by
  rw [value, get?_set]
  split_ifs <;> rfl

theorem value_of_get? (h : get? t p = some n) : value t p = n := by
  rw [value, h, Option.getD_some]

theorem value_overlay (h : u.paths.Nodup) (t : Table) (p : String) :
    value (overlay t u) p = if p ∈ u.paths then value u p else value t p := by
  rw [value, get?_overlay h]
  split_ifs with hp
  · obtain ⟨n, hn⟩ := exists_get? hp
    rw [hn, value_of_get? hn]
    rfl
  · rw [get?_eq_none_iff.2 hp]
    rfl

/-- **A table is its paths with their values**, if no path is there twice. -/
theorem eq_map_value (h : t.paths.Nodup) : t = t.paths.map fun p => (p, t.value p) := by
  induction t with
  | nil => rfl
  | cons e t ih =>
    obtain ⟨q, m⟩ := e
    rw [paths_cons, List.nodup_cons] at h
    rw [paths_cons, List.map_cons, value_cons, if_pos rfl]
    refine congrArg _ ((ih h.2).trans (List.map_congr_left fun p hp => ?_))
    rw [value_cons, if_neg fun (hq : q = p) => h.1 (hq ▸ hp)]

/-! ## Places -/

/-- **What is laid over a table** takes the places of its paths, and what only it has follows. -/
theorem paths_overlay (h : u.paths.Nodup) (t : Table) :
    (overlay t u).paths = t.paths ++ u.paths.filter (· ∉ t.paths) := by
  induction u generalizing t with
  | nil => exact (List.append_nil _).symm
  | cons e u ih =>
    obtain ⟨q, m⟩ := e
    rw [paths_cons, List.nodup_cons] at h
    rw [overlay_cons, ih h.2, paths_set, paths_cons]
    by_cases hq : q ∈ t.paths
    · rw [if_pos hq, List.filter_cons_of_neg (by simpa using hq)]
    · have hrest : (paths u).filter (· ∉ t.paths ++ [q]) = (paths u).filter (· ∉ t.paths) := by
        refine List.filter_congr fun p hp => ?_
        have hpq : p ≠ q := fun hpq => h.1 (hpq ▸ hp)
        simp [hpq]
      rw [if_neg hq, List.filter_cons_of_pos (by simpa using hq), hrest, List.append_assoc]
      rfl

theorem overlay_nil (h : t.paths.Nodup) : overlay [] t = t := by
  have hpaths : (overlay [] t).paths = t.paths := by
    rw [paths_overlay h]
    exact List.filter_eq_self.2 fun p _ => decide_eq_true List.not_mem_nil
  have hd : (overlay [] t).paths.Nodup := hpaths ▸ h
  calc overlay [] t = t.paths.map fun p => (p, value (overlay [] t) p) := by
        rw [← hpaths]
        exact eq_map_value hd
    _ = t.paths.map fun p => (p, t.value p) :=
        List.map_congr_left fun p hp => by rw [value_overlay h, if_pos hp]
    _ = t := (eq_map_value h).symm

/-! ## Zeros -/

/-- Zeros at the paths of a table. -/
def cleared (t : Table) : Table := t.map fun e => (e.1, 0)

theorem cleared_cons (p : String) (n : Int) (t : Table) :
    cleared ((p, n) :: t) = (p, 0) :: cleared t := rfl

theorem paths_cleared (t : Table) : t.cleared.paths = t.paths := List.map_map

theorem value_cleared (t : Table) (p : String) : t.cleared.value p = 0 := by
  induction t with
  | nil => rfl
  | cons e t ih =>
    obtain ⟨q, m⟩ := e
    rw [cleared_cons, value_cons, ih, ite_self]

theorem cleared_set (t : Table) (p : String) (n : Int) :
    cleared (set t p n) = set t.cleared p 0 := by
  induction t with
  | nil => rfl
  | cons e t ih =>
    obtain ⟨q, m⟩ := e
    rw [set, cleared_cons, set]
    split_ifs
    · rfl
    · rw [cleared_cons, ih]

/-- **Zeros over zeros are the zeros** of what is laid over what. -/
theorem overlay_cleared (t u : Table) : overlay t.cleared u.cleared = (overlay t u).cleared := by
  induction u generalizing t with
  | nil => rfl
  | cons e u ih =>
    obtain ⟨q, m⟩ := e
    rw [cleared_cons, overlay_cons, overlay_cons, ← ih, cleared_set]

/-- **To drain a table** is to lay it over the report and to clear it. -/
theorem drain_eq (report t : Table) : drain report t = (overlay report t, t.cleared) := by
  induction t generalizing report with
  | nil => rfl
  | cons e t ih =>
    obtain ⟨q, m⟩ := e
    rw [drain, ih, cleared_cons, overlay_cons]

end

end Table

/-! ## Flushes -/

namespace Store

variable {s : Store}

/-- **The snapshot of the counters** lists them in their order, then the paths that only gauges
    have; the value is that of the gauge wherever there is one. -/
theorem counterSnapshot_eq (h : s.Distinct) : s.counterSnapshot =
    (s.counters.paths ++ s.gauges.paths.filter (· ∉ s.counters.paths)).map fun p =>
      (p, if p ∈ s.gauges.paths then s.gauges.value p else s.counters.value p) := by
  have hcounters : s.counters.paths.Nodup := h .counter
  have hgauges : s.gauges.paths.Nodup := h .gauge
  rw [counterSnapshot, Table.eq_map_value (Table.nodup_overlay hcounters s.gauges),
    Table.paths_overlay hgauges]
  exact List.map_congr_left fun p _ => congrArg _ (Table.value_overlay hgauges _ p)

theorem flushCounters_fst (s : Store) : s.flushCounters.1 =
    { s with counters := s.counters.cleared, gauges := s.gauges.cleared } := by
  simp only [flushCounters, Table.drain_eq]

theorem flushTimers_fst (s : Store) : s.flushTimers.1 = { s with timers := s.timers.cleared } := by
  simp only [flushTimers, Table.drain_eq]

/-- **A flush of the counters and gauges reports their snapshot.** -/
theorem flushCounters_snd (h : s.Distinct) : s.flushCounters.2 = s.counterSnapshot := by
  have hcounters : Table.overlay [] s.counters = s.counters := Table.overlay_nil (h .counter)
  simp only [flushCounters, Table.drain_eq, hcounters, counterSnapshot]

/-- **A flush of the timers reports their snapshot.** -/
theorem flushTimers_snd (h : s.Distinct) : s.flushTimers.2 = s.timerSnapshot := by
  have htimers : Table.overlay [] s.timers = s.timers := Table.overlay_nil (h .timer)
  simp only [flushTimers, Table.drain_eq, htimers, timerSnapshot]

theorem counterSnapshot_flushCounters (s : Store) :
    s.flushCounters.1.counterSnapshot = s.counterSnapshot.cleared := by
  rw [flushCounters_fst]
  exact Table.overlay_cleared s.counters s.gauges

end Store

end MetricDocs
