/-
  When two paths have the same object and field.

  A dot behind a path of several segments that ends in an index adds an empty segment behind the
  index, and an empty field is as good as none.  Otherwise object and field tell the path.

  * `IdleDot k p`: the path `p` is `k` with such a dot behind it;
  * `Group.path` puts object and field together again, which gives the path back or the path with
    such a dot (`path_eq_or_idleDot`);
  * `group_eq_iff`: so two paths share object and field iff one is the other with such a dot.
-/
import MetricDocs.Proofs.Path.Grouping

namespace MetricDocs.Path

/-- The second path is the first one and a dot, and the first one has several segments of which the
    last is an index. -/
structure IdleDot (k p : String) : Prop where
  several : 2 ≤ (segments k).length
  index : ∃ s ∈ (segments k).getLast?, isIndex s = .ok true
  eq : p = k ++ "."

/-- Whether a path ends in an index. -/
def endsInIndex (path : String) : Bool :=
  match (segments path).getLast?.map isIndex with
  | some (.ok b) => b
  | _ => false

/-- The path of an object and a field: both with a dot between them, unless the field is the path
    itself. -/
def Group.path (g : Group) : String :=
  if endsInIndex g.object ∧ g.object ≠ g.field then g.object ++ "." ++ g.field else g.field

section
variable {segs front back : List String} {path k p q : String} {g : Group}

/-! ## Joined paths -/

theorem endsInIndex_eq_true_iff :
    endsInIndex path = true ↔ ∃ s ∈ (segments path).getLast?, isIndex s = .ok true := by
  rw [endsInIndex]
  rcases (segments path).getLast? with _ | s
  · simp
  · rcases h : isIndex s with e | b <;> simp [h]

theorem join_singleton (s : String) : join [s] = s := by
  rw [join, List.map_singleton, List.intercalate_singleton, String.ofList_toList]

theorem join_append (hfront : front ≠ []) (hback : back ≠ []) :
    join (front ++ back) = join front ++ "." ++ join back := by
  have hcons : ∀ {s : String} {segs : List String}, segs ≠ [] →
      join (s :: segs) = s ++ "." ++ join segs := by
    intro s segs hne
    obtain ⟨t, ts, rfl⟩ := List.exists_cons_of_ne_nil hne
    rw [join, List.map_cons, List.map_cons, List.intercalate_cons_cons, String.ofList_append,
      String.ofList_append, String.ofList_toList, ← List.map_cons, ← join]
  induction front with
  | nil => exact absurd rfl hfront
  | cons s rest ih =>
    rw [List.cons_append]
    rcases eq_or_ne rest [] with rfl | hrest
    · rw [List.nil_append, hcons hback, join_singleton]
    · rw [hcons (List.append_ne_nil_of_left_ne_nil hrest _), ih hrest, hcons hrest]
      simp only [String.append_assoc]

theorem segments_append_dot (path : String) : segments (path ++ ".") = segments path ++ [""] := by
  have hjoin : join (segments path ++ [""]) = path ++ "." := by
    rw [join_append (segments_ne_nil path) (List.cons_ne_nil _ _), join_segments, join_singleton,
      String.append_empty]
  rw [← hjoin, segments_join (List.append_ne_nil_of_right_ne_nil _ (List.cons_ne_nil _ _))]
  refine List.forall_mem_append.2 ⟨fun s hs => dot_notMem_of_mem_segments hs, ?_⟩
  simp

/-! ## How a path is grouped -/

theorem group_of_index {init : List String} {s : String} (hpath : segments path = init ++ s :: back)
    (hseveral : 2 ≤ (segments path).length) (hs : isIndex s = .ok true)
    (hback : ∀ t ∈ back, isIndex t = .ok false) :
    group path = .ok ⟨join (init ++ [s]), join back⟩ := by
  rw [group]
  split
  · rename_i hnil
    rw [hnil] at hseveral
    cases hseveral
  · rename_i hsingle
    rw [hsingle] at hseveral
    simp at hseveral
  · rename_i first rest _ hsegs
    rw [← hsegs, hpath, splitAtIndex_append_cons hs hback]

/-- **How a path is grouped**: as a single segment, at the rightmost of its segments that is an
    index, or, if none is, under its first segment. -/
theorem group_cases (h : group path = .ok g) :
    g = ⟨path, path⟩ ∧ segments path = [path] ∨
      (∃ init s back, segments path = init ++ s :: back ∧ 2 ≤ (segments path).length ∧
        isIndex s = .ok true ∧ (∀ t ∈ back, isIndex t = .ok false) ∧
        g = ⟨join (init ++ [s]), join back⟩) ∨
      ∃ s rest, segments path = s :: rest ∧ rest ≠ [] ∧ (∀ t ∈ s :: rest, isIndex t = .ok false) ∧
        g = ⟨s, path⟩ := by
  unfold group at h
  split at h
  · rename_i hnil
    exact absurd hnil (segments_ne_nil path)
  · rename_i s hsingle
    cases h
    have hpath : s = path := by rw [← join_singleton s, ← hsingle, join_segments]
    exact .inl ⟨rfl, hpath ▸ hsingle⟩
  · rename_i s rest hmany hsegs
    have hrest : rest ≠ [] := hmany
    split at h
    · cases h
    · rename_i front back hsplit
      cases h
      obtain ⟨init, t, rfl, happ, ht, hback⟩ := splitAtIndex_eq_some_iff.1 hsplit
      refine .inr (.inl ⟨init, t, back, hsegs.trans happ, ?_, ht, hback, rfl⟩)
      rw [hsegs, List.length_cons]
      exact Nat.succ_le_succ (List.length_pos_of_ne_nil hrest)
    · rename_i hsplit
      cases h
      exact .inr (.inr ⟨s, rest, hsegs, hrest, splitAtIndex_eq_none_iff.1 hsplit, rfl⟩)

/-! ## Putting together again -/

theorem path_self (s : String) : (⟨s, s⟩ : Group).path = s := by
  simp [Group.path]

theorem isIndex_of_mem_segments_join (hdot : ∀ t ∈ back, '.' ∉ t.toList)
    (hback : ∀ t ∈ back, isIndex t = .ok false) :
    ∀ t ∈ segments (join back), isIndex t = .ok false := by
  rcases eq_or_ne back [] with rfl | hne
  · -- an empty field has one segment, which is empty
    intro t ht
    have hempty : segments (join []) = [""] := rfl
    rw [hempty, List.mem_singleton] at ht
    rw [ht]
    rfl
  · rwa [segments_join hne hdot]

theorem join_ne_join_of_index {init : List String} {s : String}
    (hfront : ∀ t ∈ init ++ [s], '.' ∉ t.toList) (hdot : ∀ t ∈ back, '.' ∉ t.toList)
    (hs : isIndex s = .ok true) (hback : ∀ t ∈ back, isIndex t = .ok false) :
    join (init ++ [s]) ≠ join back := by
  intro heq
  have hmem : s ∈ segments (join back) := by
    rw [← heq, segments_join (List.append_ne_nil_of_right_ne_nil _ (List.cons_ne_nil _ _)) hfront]
    exact List.mem_append_right _ List.mem_cons_self
  rw [isIndex_of_mem_segments_join hdot hback s hmem] at hs
  cases hs

/-- **Object and field tell the path**, or the path with an idle dot behind it. -/
theorem path_eq_or_idleDot (h : group path = .ok g) : g.path = path ∨ IdleDot path g.path := by
  rcases group_cases h with ⟨rfl, -⟩ | ⟨init, s, back, hsegs, hseveral, hs, hback, rfl⟩ |
    ⟨s, rest, hsegs, -, hnone, rfl⟩
  · exact .inl (path_self path)
  · have hsplit : segments path = (init ++ [s]) ++ back := by
      rw [hsegs, List.append_assoc, List.singleton_append]
    obtain ⟨hfront, hdot⟩ := List.forall_mem_append.1
      fun t (ht : t ∈ (init ++ [s]) ++ back) => dot_notMem_of_mem_segments (hsplit ▸ ht)
    have hne : init ++ [s] ≠ [] := List.append_ne_nil_of_right_ne_nil _ (List.cons_ne_nil _ _)
    have hindex : ∃ t ∈ (init ++ [s]).getLast?, isIndex t = .ok true := ⟨s, by simp, hs⟩
    have hends : endsInIndex (join (init ++ [s])) = true := by
      rwa [endsInIndex_eq_true_iff, segments_join hne hfront]
    rw [Group.path, if_pos ⟨hends, join_ne_join_of_index hfront hdot hs hback⟩]
    rcases eq_or_ne back [] with rfl | hmore
    · -- the field is empty, and the path ends in its index
      rw [List.append_nil] at hsplit
      have hjoin : join (init ++ [s]) = path := by rw [← hsplit, join_segments]
      rw [hjoin]
      exact .inr ⟨hseveral, by rwa [hsplit], String.append_empty⟩
    · rw [← join_append hne hmore, ← hsplit, join_segments]
      exact .inl rfl
  · have hends : ¬ endsInIndex s = true := by
      have hdot : '.' ∉ s.toList := dot_notMem_of_mem_segments (hsegs ▸ List.mem_cons_self)
      rw [endsInIndex_eq_true_iff, segments_eq_singleton hdot]
      simp [hnone s List.mem_cons_self]
    rw [Group.path, if_neg fun h => hends h.1]
    exact .inl rfl

theorem IdleDot.group_eq (h : IdleDot k p) : group p = group k := by
  obtain ⟨hseveral, ⟨s, hs, hindex⟩, rfl⟩ := h
  obtain ⟨init, hk⟩ := List.getLast?_eq_some_iff.1 hs
  have hp : segments (k ++ ".") = init ++ s :: [""] := by
    rw [segments_append_dot, hk, List.append_assoc, List.singleton_append]
  have hlength : 2 ≤ (segments (k ++ ".")).length := by
    rw [segments_append_dot, List.length_append]
    exact hseveral.trans (Nat.le_add_right _ _)
  have hempty : ∀ t ∈ [""], isIndex t = .ok false := by
    intro t ht
    rw [List.mem_singleton.1 ht]
    rfl
  rw [group_of_index hp hlength hindex hempty,
    group_of_index hk hseveral hindex fun t ht => absurd ht List.not_mem_nil]
  rfl

/-! ## The main theorem -/

/-- **Exact collisions.**  Two paths that can be grouped share object and field exactly if they are
    the same or one is the other with an idle dot; so a path is told by its object and field, but
    for such a dot. -/
theorem group_eq_iff (hp : Groupable p) (hq : Groupable q) :
    (group p = group q ↔ p = q ∨ IdleDot p q ∨ IdleDot q p) ∧
      ((keyOf p).path = p ∨ IdleDot p (keyOf p).path) := by
  have hpath := path_eq_or_idleDot hp.group_eq
  refine ⟨⟨fun h => ?_, ?_⟩, hpath⟩
  · rcases hpath with hpath | hpath <;>
      rcases path_eq_or_idleDot (h ▸ hp.group_eq) with hpath' | hpath'
    · exact .inl (hpath.symm.trans hpath')
    · exact .inr (.inr (hpath ▸ hpath'))
    · exact .inr (.inl (hpath' ▸ hpath))
    · have hdots : p ++ "." = q ++ "." := hpath.eq.symm.trans hpath'.eq
      exact .inl (String.append_left_inj "." |>.1 hdots)
  · rintro (rfl | h | h)
    · rfl
    · exact h.group_eq.symm
    · exact h.group_eq

end

/-- One dot behind a path that ends in an index is idle, a second one is not. -/
theorem idleDot_collides : Groupable "a.1" ∧ Groupable "a.1." ∧ Groupable "a.1.." ∧
    group "a.1" = group "a.1." ∧ group "a.1." ≠ group "a.1.." := by
  have hdot : IdleDot "a.1" "a.1." := ⟨by decide, ⟨"1", by decide, rfl⟩, by decide⟩
  have h₁ : Groupable "a.1" := by decide
  have h₂ : Groupable "a.1." := by decide
  have h₃ : Groupable "a.1.." := by decide
  refine ⟨h₁, h₂, h₃, (group_eq_iff h₁ h₂).1.2 (.inr (.inl hdot)), fun heq => ?_⟩
  rcases (group_eq_iff h₂ h₃).1.1 heq with h | h | h
  · exact absurd h (by decide)
  · obtain ⟨s, hs, hindex⟩ := h.index
    have hlast : (segments "a.1.").getLast? = some "" := by decide
    cases hlast.symm.trans hs
    cases hindex
  · exact absurd h.eq (by decide)

end MetricDocs.Path
