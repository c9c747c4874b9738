/-
  Which paths can be grouped, and which share an object and a field.

  * `exists_of_splitAtIndex`: the first side of a split ends in an index;
  * `splitAtIndex_eq_none_iff` and `splitAtIndex_eq_some_iff`: a scan finds the rightmost index, or
    nothing if there is none;
  * `isIndex_eq_error`: a run of digits too long to convert is a failure, and
    `not_groupable_of_long`: a path that ends in one cannot be grouped;
  * `keyOf_eq_self_iff`: no other path has the object and field of a single segment that is no
    index.
-/
import MetricDocs.Proofs.Path.Segments

namespace MetricDocs.Path

section
variable {segs front back init : List String} {s path : String}

theorem exists_of_splitAtIndex (h : splitAtIndex segs = .ok (some (front, back))) :
    ∃ init s, front = init ++ [s] ∧ isIndex s = .ok true := by
  induction segs generalizing front with
  | nil => cases h
  | cons s rest ih =>
    rw [splitAtIndex] at h
    split at h
    · cases h
    · rename_i f b hrest
      cases h
      obtain ⟨init, t, rfl, ht⟩ := ih hrest
      exact ⟨s :: init, t, rfl, ht⟩
    · split at h
      · cases h
      · rename_i hs
        cases h
        exact ⟨[], s, rfl, hs⟩
      · cases h

/-! ## What a scan finds -/

/-- **Nothing is found** iff no segment is an index. -/
theorem splitAtIndex_eq_none_iff :
    splitAtIndex segs = .ok none ↔ ∀ s ∈ segs, isIndex s = .ok false := by
  induction segs with
  | nil => simp [splitAtIndex]
  | cons s rest ih =>
    rw [List.forall_mem_cons, ← ih, splitAtIndex]
    rcases splitAtIndex rest with e | _ | ⟨f, b⟩
    · simp
    · rcases isIndex s with e | _ | _ <;> simp
    · simp

theorem isIndex_of_mem_back (h : splitAtIndex segs = .ok (some (front, back))) :
    ∀ s ∈ back, isIndex s = .ok false := by
  induction segs generalizing front with
  | nil => cases h
  | cons s rest ih =>
    rw [splitAtIndex] at h
    split at h
    · cases h
    · rename_i hrest
      cases h
      exact ih hrest
    · rename_i hrest
      split at h
      · cases h
      · cases h
        exact splitAtIndex_eq_none_iff.1 hrest
      · cases h

theorem splitAtIndex_append_cons (hs : isIndex s = .ok true)
    (hback : ∀ t ∈ back, isIndex t = .ok false) (init : List String) :
    splitAtIndex (init ++ s :: back) = .ok (some (init ++ [s], back)) := by
  induction init with
  | nil => rw [List.nil_append, splitAtIndex, splitAtIndex_eq_none_iff.2 hback, hs, List.nil_append]
  | cons t init ih => rw [List.cons_append, splitAtIndex, ih, List.cons_append]

/-- **What is found is the rightmost index.** -/
theorem splitAtIndex_eq_some_iff :
    splitAtIndex segs = .ok (some (front, back)) ↔
      ∃ init s, front = init ++ [s] ∧ segs = init ++ s :: back ∧ isIndex s = .ok true ∧
        ∀ t ∈ back, isIndex t = .ok false := by
  constructor
  · intro h
    obtain ⟨init, s, rfl, hs⟩ := exists_of_splitAtIndex h
    exact ⟨init, s, rfl, by simp [← (splitAtIndex_append h).1], hs, isIndex_of_mem_back h⟩
  · rintro ⟨init, s, rfl, rfl, hs, hback⟩
    exact splitAtIndex_append_cons hs hback init

/-! ## Long runs of digits -/

theorem isIndex_eq_error (hdigits : ∀ c ∈ unsigned s.toList, c.isDigit = true)
    (hlong : Decimal.maxDigits < (unsigned s.toList).length) :
    isIndex s = .error (.tooManyDigits (some (unsigned s.toList).length)) := by
  have hne : (unsigned s.toList).isEmpty = false := by
    rw [List.isEmpty_eq_false_iff]
    rintro h
    rw [h] at hlong
    cases hlong
  have hall : (unsigned s.toList).all Char.isDigit = true := List.all_eq_true.2 hdigits
  simp only [isIndex, hne, hall, Bool.not_true, Bool.or_self, Bool.false_eq_true, ↓reduceIte,
    if_pos (show (unsigned s.toList).length > Decimal.maxDigits from hlong)]

theorem splitAtIndex_append_error {e : Failure} (h : isIndex s = .error e) (init : List String) :
    splitAtIndex (init ++ [s]) = .error e := by
  induction init with
  | nil => rw [List.nil_append, splitAtIndex, splitAtIndex, h]
  | cons t init ih => rw [List.cons_append, splitAtIndex, ih]

/-- **A path that ends in a run of digits too long to convert** cannot be grouped. -/
theorem not_groupable_of_long (hsegs : segments path = init ++ [s]) (hinit : init ≠ [])
    (hdigits : ∀ c ∈ unsigned s.toList, c.isDigit = true)
    (hlong : Decimal.maxDigits < (unsigned s.toList).length) : ¬ Groupable path := by
  have hsplit := splitAtIndex_append_error (isIndex_eq_error hdigits hlong) init
  obtain ⟨t, init, rfl⟩ := List.exists_cons_of_ne_nil hinit
  rintro ⟨g, hg⟩
  rw [List.cons_append] at hsegs hsplit
  rw [group, hsegs] at hg
  split at hg
  · rename_i heq
    cases heq
  · rename_i heq
    simp at heq
  · rename_i heq
    rw [← heq, hsplit] at hg
    cases hg

theorem not_groupable_ones {n : ℕ} (hn : Decimal.maxDigits < n) :
    ¬ Groupable (join ["x", String.ofList (List.replicate n '1')]) := by
  cases n with
  | zero => cases hn
  | succ n =>
    have hdots : ∀ s ∈ ["x", String.ofList (List.replicate (n + 1) '1')], '.' ∉ s.toList := by
      simp [List.mem_replicate]
    have hones : unsigned (String.ofList (List.replicate (n + 1) '1')).toList =
        List.replicate (n + 1) '1' := by
      rw [String.toList_ofList, List.replicate_succ, unsigned]
      · simp
      · simp
    refine @not_groupable_of_long ["x"] _ _ (segments_join (List.cons_ne_nil _ _) hdots)
      (List.cons_ne_nil _ _) ?_ ?_
    · intro c hc
      rw [hones] at hc
      rw [List.eq_of_mem_replicate hc]
      rfl
    · rwa [hones, List.length_replicate]

/-! ## Shared keys -/

/-- **No other path has the object and field of a single segment** that is no index. -/
theorem keyOf_eq_self_iff (hs : '.' ∉ s.toList) (hindex : isIndex s ≠ .ok true) :
    keyOf path = ⟨s, s⟩ ↔ path = s := by
  constructor
  · intro h
    unfold keyOf at h
    split at h
    · rename_i g hg
      subst h
      unfold group at hg
      split at hg
      · cases hg; rfl
      · cases hg; rfl
      · rename_i first rest _ hsegs
        split at hg
        · cases hg
        · -- the object would end in an index, and it is `s`
          rename_i front back hsplit
          obtain ⟨happ, hne⟩ := splitAtIndex_append hsplit
          obtain ⟨init, t, rfl, ht⟩ := exists_of_splitAtIndex hsplit
          have hdot : ∀ u ∈ init ++ [t], '.' ∉ u.toList := fun u hu =>
            dot_notMem_of_mem_segments (hsegs ▸ happ ▸ List.mem_append_left _ hu)
          have hobject : join (init ++ [t]) = s := congrArg Group.object (Except.ok.inj hg)
          have hfront := segments_join hne hdot
          rw [hobject, segments_eq_singleton hs] at hfront
          have hlast : s = t := by simpa using congrArg List.getLast? hfront
          rw [← hlast] at ht
          exact absurd ht hindex
        · exact congrArg Group.field (Except.ok.inj hg)
    · exact congrArg Group.object h
  · rintro rfl
    rw [keyOf, group, segments_eq_singleton hs]

end

end MetricDocs.Path
