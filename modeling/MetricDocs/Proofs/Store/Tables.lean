/-
  The tables of a store.

  * `eraseDups_concat` and `nodup_eraseDups`: names in the order of first use, each once;
  * `Table.nodup_set`, `Table.paths_drain` and `Table.nodup_overlay`: no path is in a table twice,
    whatever is done to it;
  * `Table.get?_overlay`: where one table is laid over another, its values count;
  * `Table.get?_reverse` and `Table.get?_perm`: in a table with distinct paths the last value at a
    path is the first, and the order of entries does not count;
  * `Store.Distinct` and `Store.Distinct.perform`: so the paths of all three tables are distinct
    after every command.
-/
import Mathlib
import MetricDocs.Store

namespace MetricDocs

/-! ## Names in the order of first use -/

theorem eraseDups_concat (names : List String) (name : String) : (names ++ [name]).eraseDups =
    if name ∉ names.eraseDups then names.eraseDups ++ [name] else names.eraseDups := by
  by_cases h : name ∈ names
  · simp [List.eraseDups_append, List.removeAll, h]
  · simp [List.eraseDups_append, List.removeAll, h, List.eraseDups_cons]

theorem nodup_eraseDups (names : List String) : names.eraseDups.Nodup := by
  induction names using List.reverseRecOn with
  | nil => exact List.nodup_nil
  | append_singleton names name ih =>
    rw [eraseDups_concat]
    split_ifs with h
    · exact ih
    · exact List.nodup_append'.2 ⟨ih, List.nodup_singleton _, List.disjoint_singleton.2 h⟩

/-! ## Tables -/

namespace Table

section
variable {t u : Table} {p q : String} {n : Int}

theorem get?_cons (q : String) (n : Int) (t : Table) (p : String) :
    get? ((q, n) :: t) p = if q = p then some n else get? t p := rfl

theorem paths_cons (q : String) (n : Int) (t : Table) : paths ((q, n) :: t) = q :: t.paths := rfl

theorem paths_append (t u : Table) : paths (t ++ u) = t.paths ++ u.paths := List.map_append

theorem paths_reverse (t : Table) : paths t.reverse = t.paths.reverse := List.map_reverse

theorem get?_append (t u : Table) (p : String) : get? (t ++ u) p = (get? t p).or (get? u p) := by
  induction t with
  | nil => rfl
  | cons e t ih =>
    obtain ⟨q, m⟩ := e
    rw [List.cons_append, get?_cons, get?_cons, ih]
    split_ifs <;> rfl

theorem get?_eq_none_iff : get? t p = none ↔ p ∉ t.paths := by
  induction t with
  | nil => simp [get?, paths]
  | cons e t ih =>
    obtain ⟨q, m⟩ := e
    rw [get?_cons, paths_cons]
    by_cases hq : q = p
    · simp [hq]
    · have hp : p ≠ q := fun h => hq h.symm
      rw [if_neg hq, ih]
      simp [hp]

theorem exists_get? (h : p ∈ t.paths) : ∃ n, get? t p = some n := by
  rw [← Option.ne_none_iff_exists', ne_eq, get?_eq_none_iff, not_not]
  exact h

theorem exists_split (h : get? t p = some n) :
    ∃ pre post, t = pre ++ (p, n) :: post ∧ p ∉ pre.paths := by
  induction t with
  | nil => cases h
  | cons e t ih =>
    obtain ⟨q, m⟩ := e
    rw [get?_cons] at h
    split_ifs at h with hq
    · cases h
      exact ⟨[], t, by rw [hq]; rfl, List.not_mem_nil⟩
    · obtain ⟨pre, post, rfl, hpre⟩ := ih h
      refine ⟨(q, m) :: pre, post, rfl, ?_⟩
      rw [paths_cons, List.mem_cons, not_or]
      exact ⟨fun h' => hq h'.symm, hpre⟩

theorem get?_reverse (h : t.paths.Nodup) (p : String) : get? t.reverse p = get? t p := by
  induction t with
  | nil => rfl
  | cons e t ih =>
    obtain ⟨q, m⟩ := e
    rw [paths_cons, List.nodup_cons] at h
    rw [List.reverse_cons, get?_append, ih h.2, get?_cons, get?_cons]
    split_ifs with hq
    · rw [get?_eq_none_iff.2 (hq ▸ h.1)]
      rfl
    · exact Option.or_none

theorem get?_perm (h : t.Perm u) (hd : t.paths.Nodup) (p : String) : get? t p = get? u p := by
  induction h with
  | nil => rfl
  | cons e _ ih =>
    rw [get?_cons, get?_cons, ih (List.nodup_cons.1 hd).2]
  | swap e f t =>
    have hne : e.1 ≠ f.1 := by
      rintro heq
      rw [paths_cons, paths_cons, heq] at hd
      exact (List.nodup_cons.1 hd).1 List.mem_cons_self
    rw [get?_cons, get?_cons, get?_cons, get?_cons]
    split_ifs with hf he
    · exact absurd (he.trans hf.symm) hne
    · rfl
    · rfl
    · rfl
  | trans h _ ih ih' => exact (ih hd).trans (ih' ((h.map _).nodup_iff.1 hd))

/-! ## Changes -/

theorem paths_set (t : Table) (p : String) (n : Int) :
    (set t p n).paths = if p ∈ t.paths then t.paths else t.paths ++ [p] := by
  induction t with
  | nil => rfl
  | cons e t ih =>
    obtain ⟨q, m⟩ := e
    rw [set]
    by_cases hq : q = p
    · rw [if_pos hq, if_pos (by rw [hq]; exact List.mem_cons_self)]
      rfl
    · have hp : p ≠ q := fun h => hq h.symm
      rw [if_neg hq, paths_cons, paths_cons, ih]
      by_cases hmem : p ∈ paths t
      · rw [if_pos hmem, if_pos (List.mem_cons_of_mem _ hmem)]
      · rw [if_neg hmem, if_neg (by simp [hp, hmem]), List.cons_append]

theorem nodup_set (h : t.paths.Nodup) (p : String) (n : Int) : (set t p n).paths.Nodup := by
  rw [paths_set]
  split_ifs with hp
  · exact h
  · rw [List.nodup_append]
    refine ⟨h, List.nodup_singleton p, ?_⟩
    rintro q hq r hr rfl
    rw [List.mem_singleton.1 hr] at hq
    exact hp hq

theorem mem_paths_set : q ∈ (set t p n).paths ↔ q ∈ t.paths ∨ q = p := by
  rw [paths_set]
  split_ifs with hp
  · exact ⟨Or.inl, fun h => h.elim id fun h => h ▸ hp⟩
  · rw [List.mem_append, List.mem_singleton]

theorem mem_of_mem_set {e : String × Int} (h : e ∈ set t p n) : e ∈ t ∨ e = (p, n) := by
  induction t with
  | nil => exact Or.inr (List.mem_singleton.1 h)
  | cons f t ih =>
    obtain ⟨q, m⟩ := f
    rw [set] at h
    split_ifs at h with hq
    · rcases List.mem_cons.1 h with rfl | h
      · exact Or.inr (by rw [hq])
      · exact Or.inl (List.mem_cons_of_mem _ h)
    · rcases List.mem_cons.1 h with rfl | h
      · exact Or.inl List.mem_cons_self
      · exact (ih h).imp_left (List.mem_cons_of_mem _)

theorem paths_drain (report t : Table) : (drain report t).2.paths = t.paths := by
  induction t generalizing report with
  | nil => rfl
  | cons e t ih =>
    obtain ⟨q, m⟩ := e
    rw [drain]
    exact congrArg (q :: ·) (ih (set report q m))

theorem overlay_cons (t : Table) (p : String) (n : Int) (u : Table) :
    overlay t ((p, n) :: u) = overlay (set t p n) u := rfl

theorem mem_of_mem_overlay {e : String × Int} (h : e ∈ overlay t u) : e ∈ t ∨ e ∈ u := by
  induction u generalizing t with
  | nil => exact Or.inl h
  | cons f u ih =>
    rcases ih h with hset | hu
    · rcases mem_of_mem_set hset with ht | rfl
      · exact Or.inl ht
      · exact Or.inr List.mem_cons_self
    · exact Or.inr (List.mem_cons_of_mem f hu)

theorem nodup_overlay (h : t.paths.Nodup) (u : Table) : (overlay t u).paths.Nodup := by
  induction u generalizing t with
  | nil => exact h
  | cons e u ih => exact ih (nodup_set h e.1 e.2)

/-- **Where a table is laid over another, its values count.** -/
theorem get?_overlay (h : u.paths.Nodup) (t : Table) (p : String) :
    get? (overlay t u) p = (get? u p).or (get? t p) := by
  induction u generalizing t with
  | nil => rfl
  | cons e u ih =>
    obtain ⟨q, m⟩ := e
    rw [paths_cons, List.nodup_cons] at h
    rw [overlay_cons, ih h.2, get?_set, get?_cons]
    by_cases hq : q = p
    · rw [if_pos hq, if_pos hq, get?_eq_none_iff.2 (hq ▸ h.1)]
      rfl
    · rw [if_neg hq, if_neg hq]

theorem mem_paths_overlay : q ∈ (overlay t u).paths ↔ q ∈ t.paths ∨ q ∈ u.paths := by
  induction u generalizing t with
  | nil => simp [overlay, paths]
  | cons e u ih =>
    obtain ⟨r, m⟩ := e
    rw [overlay_cons, ih, mem_paths_set, paths_cons, List.mem_cons, or_assoc]

end

end Table

/-! ## Stores -/

namespace Store

/-- No table has a path twice. -/
def Distinct (s : Store) : Prop := ∀ kind, (s.table kind).paths.Nodup

theorem distinct_empty : empty.Distinct := by
  intro kind
  cases kind <;> exact List.nodup_nil

section
variable {s : Store}

theorem Distinct.withTable (h : s.Distinct) (kind : MetricKind) {t : Table} (ht : t.paths.Nodup) :
    (s.withTable kind t).Distinct := by
  intro kind'
  have h := h kind'
  cases kind <;> cases kind' <;> first | exact ht | exact h

theorem Distinct.set (h : s.Distinct) (handle : Handle) (n : Int) : (s.set handle n).Distinct :=
  h.withTable _ (Table.nodup_set (h _) _ _)

theorem Distinct.touch (h : s.Distinct) (handle : Handle) : (s.touch handle).Distinct :=
  h.withTable _ (Table.nodup_set (h _) _ _)

theorem Distinct.update (h : s.Distinct) (handle : Handle) (c : Change) (argument : Value) :
    (s.update handle c argument).1.Distinct := by
  rw [Store.update]
  split
  · exact h.touch handle
  · exact h.set handle _

theorem Distinct.addTimes (h : s.Distinct) (handle : Handle) (argument : Value) (n : ℕ) :
    (s.addTimes handle argument n).1.Distinct := by
  induction n generalizing s with
  | zero => exact h.touch handle
  | succ n ih =>
    have hupdate := h.update handle .add argument
    rw [Store.addTimes]
    split
    · rename_i t e heq
      rwa [heq] at hupdate
    · rename_i t m heq
      rw [heq] at hupdate
      split_ifs
      · exact hupdate
      · exact ih hupdate

/-- **No command makes a path stand in a table twice.** -/
theorem Distinct.perform (h : s.Distinct) (c : StoreCommand) : (s.perform c).1.Distinct := by
  cases c with
  | touch handle => exact h.touch handle
  | same handle => exact h.touch handle
  | update handle c argument => exact h.update handle c argument
  | addTimes handle argument times => exact h.addTimes handle argument times
  | counters => exact h
  | timers => exact h
  | flushCounters =>
    intro kind
    cases kind with
    | counter => exact (Table.paths_drain _ s.counters).symm ▸ h .counter
    | gauge => exact (Table.paths_drain _ s.gauges).symm ▸ h .gauge
    | timer => exact h .timer
  | flushTimers =>
    intro kind
    cases kind with
    | counter => exact h .counter
    | gauge => exact h .gauge
    | timer => exact (Table.paths_drain _ s.timers).symm ▸ h .timer

end

end Store

end MetricDocs
