/-
  What making a handle does to the tables.

  * `Table.without t p`: the entries at other paths; writes at `p` do not change them
    (`without_set`), and laying one table over another keeps them apart (`without_overlay`);
  * `Table.Zeroed p t u`: the table `u` is `t` with a zero at `p`, new or in the place of what was
    there, or is `t` itself;
  * `zeroed_touch` and `zeroed_overlay_touch`: a handle that is made zeroes a table in this sense,
    and what it is laid over.
-/
import MetricDocs.Proofs.Store.Tables

namespace MetricDocs.Table

/-! ## Other paths -/

/-- The entries at other paths. -/
def without (t : Table) (p : String) : Table := t.filter fun e => e.1 ≠ p

section
variable {t u : Table} {p q : String} {n : Int}

theorem without_append (t u : Table) (p : String) :
    without (t ++ u) p = without t p ++ without u p := List.filter_append _ _

theorem without_cons_self (n : Int) (t : Table) (p : String) :
    without ((p, n) :: t) p = without t p := by
  rw [without, List.filter_cons_of_neg (by simp), without]

theorem without_cons_of_ne (h : q ≠ p) (n : Int) (t : Table) :
    without ((q, n) :: t) p = (q, n) :: without t p := by
  rw [without, List.filter_cons_of_pos (by simpa using h), without]

theorem without_set (t : Table) (p : String) (n : Int) : without (set t p n) p = without t p := by
  induction t with
  | nil => exact without_cons_self n [] p
  | cons e t ih =>
    obtain ⟨q, m⟩ := e
    rw [set]
    by_cases hq : q = p
    · subst hq
      rw [if_pos rfl, without_cons_self, without_cons_self]
    · rw [if_neg hq, without_cons_of_ne hq, without_cons_of_ne hq, ih]

theorem without_set_of_ne (h : q ≠ p) (t : Table) (n : Int) :
    without (set t q n) p = set (without t p) q n := by
  induction t with
  | nil => exact without_cons_of_ne h n []
  | cons e t ih =>
    obtain ⟨r, m⟩ := e
    rw [set]
    by_cases hr : r = q
    · subst hr
      rw [if_pos rfl, without_cons_of_ne h, without_cons_of_ne h, set, if_pos rfl]
    · rw [if_neg hr]
      by_cases hrp : r = p
      · subst hrp
        rw [without_cons_self, without_cons_self, ih]
      · rw [without_cons_of_ne hrp, without_cons_of_ne hrp, ih, set, if_neg hr]

/-- **The entries at other paths** are laid over each other alone. -/
theorem without_overlay (t u : Table) (p : String) :
    without (overlay t u) p = overlay (without t p) (without u p) := by
  induction u generalizing t with
  | nil => rfl
  | cons e u ih =>
    obtain ⟨q, n⟩ := e
    rw [overlay_cons, ih]
    by_cases hq : q = p
    · subst hq
      rw [without_set, without_cons_self]
    · rw [without_set_of_ne hq, without_cons_of_ne hq, overlay_cons]

/-! ## Zeros -/

theorem set_append_of_mem (h : p ∈ t.paths) (u : Table) (n : Int) :
    set (t ++ u) p n = set t p n ++ u := by
  induction t with
  | nil => cases h
  | cons e t ih =>
    obtain ⟨q, m⟩ := e
    rw [List.cons_append, set, set]
    by_cases hq : q = p
    · rw [if_pos hq, if_pos hq, List.cons_append]
    · have hmem : p ∈ paths t := (List.mem_cons.1 h).resolve_left fun h' => hq h'.symm
      rw [if_neg hq, if_neg hq, ih hmem, List.cons_append]

theorem set_append_of_notMem (h : p ∉ t.paths) (u : Table) (n : Int) :
    set (t ++ u) p n = t ++ set u p n := by
  induction t with
  | nil => rfl
  | cons e t ih =>
    obtain ⟨q, m⟩ := e
    rw [paths_cons, List.mem_cons, not_or] at h
    rw [List.cons_append, set, if_neg fun h' => h.1 h'.symm, ih h.2, List.cons_append]

/-- The second table is the first one with a zero at `p`, in the place of what was there or new
    somewhere, or is the first one itself. -/
def Zeroed (p : String) (t u : Table) : Prop :=
  u = t ∨ ∃ pre mid post, t = pre ++ mid ++ post ∧ (∀ q ∈ mid.paths, q = p) ∧
    u = pre ++ (p, 0) :: post

theorem Zeroed.append (h : Zeroed p t u) (front back : Table) :
    Zeroed p (front ++ t ++ back) (front ++ u ++ back) := by
  rcases h with rfl | ⟨pre, mid, post, rfl, hmid, rfl⟩
  · exact Or.inl rfl
  · exact Or.inr ⟨front ++ pre, mid, post ++ back, by simp, hmid, by simp⟩

theorem zeroed_set (t : Table) (p : String) : Zeroed p t (set t p 0) := by
  refine Or.inr ?_
  by_cases h : p ∈ t.paths
  · obtain ⟨n, hn⟩ := exists_get? h
    obtain ⟨pre, post, rfl, hpre⟩ := exists_split hn
    refine ⟨pre, [(p, n)], post, by simp, by simp [paths], ?_⟩
    rw [set_append_of_notMem hpre, set, if_pos rfl]
  · refine ⟨t, [], [], by simp, by simp [paths], ?_⟩
    have hset := set_append_of_notMem h [] 0
    rwa [List.append_nil] at hset

/-- **A handle that is made zeroes the table**, or finds its path there. -/
theorem zeroed_touch (t : Table) (p : String) : Zeroed p t (touch t p) := by
  rw [touch, value]
  cases hget : get? t p with
  | none => exact zeroed_set t p
  | some n =>
    obtain ⟨pre, post, rfl, hpre⟩ := exists_split hget
    refine Or.inl ?_
    rw [Option.getD_some, set_append_of_notMem hpre, set, if_pos rfl]

theorem Zeroed.set (h : Zeroed p t u) (hq : q ≠ p) (n : Int) :
    Zeroed p (set t q n) (set u q n) := by
  rcases h with rfl | ⟨pre, mid, post, rfl, hmid, rfl⟩
  · exact Or.inl rfl
  · by_cases hpre : q ∈ pre.paths
    · refine Or.inr ⟨pre.set q n, mid, post, ?_, hmid, ?_⟩
      · rw [List.append_assoc, set_append_of_mem hpre, List.append_assoc]
      · rw [set_append_of_mem hpre]
    · have hmid' : q ∉ mid.paths := fun h => hq (hmid q h)
      refine Or.inr ⟨pre, mid, post.set q n, ?_, hmid, ?_⟩
      · rw [List.append_assoc, set_append_of_notMem hpre, set_append_of_notMem hmid',
          List.append_assoc]
      · rw [set_append_of_notMem hpre, Table.set, if_neg fun h => hq h.symm]

theorem Zeroed.overlay (h : Zeroed p t u) {upper : Table} (hp : p ∉ upper.paths) :
    Zeroed p (overlay t upper) (overlay u upper) := by
  induction upper generalizing t u with
  | nil => exact h
  | cons e upper ih =>
    obtain ⟨q, n⟩ := e
    rw [paths_cons, List.mem_cons, not_or] at hp
    exact ih (h.set (fun hq => hp.1 hq.symm) n) hp.2

theorem overlay_append (t u upper : Table) :
    Table.overlay t (u ++ upper) = Table.overlay (Table.overlay t u) upper := List.foldl_append

/-- **A handle that is made in the upper table** zeroes what the two are laid together to. -/
theorem zeroed_overlay_touch (t u : Table) (p : String) :
    Zeroed p (overlay t u) (overlay t (touch u p)) := by
  rw [touch, value]
  cases hget : get? u p with
  | none =>
    have hset := set_append_of_notMem (get?_eq_none_iff.1 hget) [] 0
    rw [List.append_nil] at hset
    rw [Option.getD_none, hset, overlay_append]
    exact zeroed_set _ p
  | some n =>
    obtain ⟨pre, post, rfl, hpre⟩ := exists_split hget
    rw [Option.getD_some, set_append_of_notMem hpre, Table.set, if_pos rfl]
    exact Or.inl rfl

end

end MetricDocs.Table
