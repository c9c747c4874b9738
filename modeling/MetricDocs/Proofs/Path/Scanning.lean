/-
  Where the scan of a path ends.

  The segments of a path are tested from right to left.  The scan ends at the first that is an index
  or has more digits than are converted, and a path is split there or cannot be grouped.

  * `SignedDigits n s` and `TooLong s`: an optional sign and `n` digits, and more of them than are
    converted;
  * `isIndex_eq_error_iff`: the test of a segment fails iff it is too long;
  * `Rightmost P segs front s back`: the rightmost segment with `P`, and both sides of it;
  * `splitAtIndex_eq_error_iff`: a scan fails iff it meets a segment that is too long before an
    index;
  * `group_at_rightmost`: so a path is grouped at its rightmost index, or fails.
-/
import MetricDocs.Proofs.Path.Collisions

namespace MetricDocs.Path

/-- One optional sign and `n` digits. -/
def SignedDigits (n : ℕ) (s : String) : Prop :=
  ∃ sign ∈ [[], ['+'], ['-']], ∃ digits : List Char,
    s.toList = sign ++ digits ∧ digits.length = n ∧ ∀ c ∈ digits, c.isDigit = true

/-- One optional sign and more digits than are converted. -/
def TooLong (s : String) : Prop := ∃ n, Decimal.maxDigits < n ∧ SignedDigits n s

/-- A segment at which a path can be split. -/
def IsIndex (s : String) : Prop := isIndex s = .ok true

/-- The rightmost segment with a property, and the segments on both sides of it. -/
structure Rightmost (P : String → Prop) (segs front : List String) (s : String)
    (back : List String) : Prop where
  eq : segs = front ++ s :: back
  holds : P s
  behind : ∀ t ∈ back, ¬ P t

section
variable {P : String → Prop} {segs front back : List String} {s path : String} {n : ℕ} {e : Failure}
  {g : Group}

/-! ## Too many digits -/

theorem unsigned_of_digits {cs : List Char} (h : ∀ c ∈ cs, c.isDigit = true) :
    unsigned cs = cs := by
  cases cs with
  | nil => rfl
  | cons c cs =>
    have hc := h c List.mem_cons_self
    rw [unsigned]
    · rintro rest hcs
      cases hcs
      exact absurd hc (by decide)
    · rintro rest hcs
      cases hcs
      exact absurd hc (by decide)

theorem exists_sign (cs : List Char) : ∃ sign ∈ [[], ['+'], ['-']], cs = sign ++ unsigned cs := by
  unfold unsigned
  split
  · exact ⟨['+'], by simp, rfl⟩
  · exact ⟨['-'], by simp, rfl⟩
  · exact ⟨[], by simp, rfl⟩

theorem signedDigits_iff : SignedDigits n s ↔
    (unsigned s.toList).length = n ∧ ∀ c ∈ unsigned s.toList, c.isDigit = true := by
  constructor
  · rintro ⟨sign, hsign, digits, hs, rfl, hdigits⟩
    have hunsigned : unsigned s.toList = digits := by
      rw [hs]
      simp only [List.mem_cons, List.not_mem_nil, or_false] at hsign
      rcases hsign with rfl | rfl | rfl
      · exact unsigned_of_digits hdigits
      · rfl
      · rfl
    rw [hunsigned]
    exact ⟨rfl, hdigits⟩
  · rintro ⟨hn, hdigits⟩
    obtain ⟨sign, hsign, hs⟩ := exists_sign s.toList
    exact ⟨sign, hsign, _, hs, hn, hdigits⟩

/-- **The test of a segment fails iff it is too long**, and the failure counts its digits. -/
theorem isIndex_eq_error_iff : isIndex s = .error e ↔
    ∃ n, Decimal.maxDigits < n ∧ SignedDigits n s ∧ e = .tooManyDigits (some n) := by
  constructor
  · intro h
    simp only [isIndex] at h
    split_ifs at h with hnone hlong
    cases h
    rw [Bool.or_eq_true, not_or, Bool.not_eq_true', Bool.not_eq_false] at hnone
    exact ⟨_, hlong, signedDigits_iff.2 ⟨rfl, List.all_eq_true.1 hnone.2⟩, rfl⟩
  · rintro ⟨n, hlong, hs, rfl⟩
    obtain ⟨rfl, hdigits⟩ := signedDigits_iff.1 hs
    exact isIndex_eq_error hdigits hlong

theorem tooLong_iff : TooLong s ↔ ∃ e, isIndex s = .error e := by
  simp only [isIndex_eq_error_iff]
  constructor
  · rintro ⟨n, hlong, hs⟩
    exact ⟨_, n, hlong, hs, rfl⟩
  · rintro ⟨_, n, hlong, hs, -⟩
    exact ⟨n, hlong, hs⟩

theorem isIndex_eq_false_iff : isIndex s = .ok false ↔ ¬ IsIndex s ∧ ¬ TooLong s := by
  rw [tooLong_iff, IsIndex]
  rcases isIndex s with e | _ | _ <;> simp

/-! ## Rightmost segments -/

theorem exists_rightmost (h : ∃ s ∈ segs, P s) : ∃ front s back, Rightmost P segs front s back := by
  induction segs with
  | nil => obtain ⟨s, hs, -⟩ := h; cases hs
  | cons s rest ih =>
    by_cases hrest : ∃ t ∈ rest, P t
    · obtain ⟨front, t, back, ht⟩ := ih hrest
      exact ⟨s :: front, t, back, by rw [ht.eq, List.cons_append], ht.holds, ht.behind⟩
    · obtain ⟨t, ht, hP⟩ := h
      rcases List.mem_cons.1 ht with rfl | ht
      · exact ⟨[], t, rest, rfl, hP, fun u hu hPu => hrest ⟨u, hu, hPu⟩⟩
      · exact absurd ⟨t, ht, hP⟩ hrest

/-! ## What ends a scan -/

/-- **A scan fails** iff it meets a failing segment before an index. -/
theorem splitAtIndex_eq_error_iff : splitAtIndex segs = .error e ↔
    ∃ front s back, segs = front ++ s :: back ∧ isIndex s = .error e ∧
      ∀ t ∈ back, isIndex t = .ok false := by
  constructor
  · intro h
    -- the scan goes from the right: the rest was passed before a segment is asked
    induction segs with
    | nil => cases h
    | cons s rest ih =>
      rw [splitAtIndex] at h
      split at h
      · rename_i e' hrest
        cases h
        obtain ⟨front, t, back, rfl, ht, hback⟩ := ih hrest
        exact ⟨s :: front, t, back, rfl, ht, hback⟩
      · cases h
      · rename_i hrest
        split at h
        · rename_i hs
          cases h
          exact ⟨[], s, rest, rfl, hs, splitAtIndex_eq_none_iff.1 hrest⟩
        · cases h
        · cases h
  · rintro ⟨front, s, back, rfl, hs, hback⟩
    induction front with
    | nil => rw [List.nil_append, splitAtIndex, splitAtIndex_eq_none_iff.2 hback, hs]
    | cons t front ih => rw [List.cons_append, splitAtIndex, ih]

theorem splitAtIndex_eq_error_iff_rightmost : splitAtIndex segs = .error e ↔
    ∃ front s back n, Rightmost TooLong segs front s back ∧ (∀ t ∈ back, ¬ IsIndex t) ∧
      SignedDigits n s ∧ e = .tooManyDigits (some n) := by
  simp only [splitAtIndex_eq_error_iff, isIndex_eq_error_iff, isIndex_eq_false_iff]
  constructor
  · rintro ⟨front, s, back, rfl, ⟨n, hlong, hs, rfl⟩, hback⟩
    exact ⟨front, s, back, n, ⟨rfl, ⟨n, hlong, hs⟩, fun t ht => (hback t ht).2⟩,
      fun t ht => (hback t ht).1, hs, rfl⟩
  · rintro ⟨front, s, back, n, hright, hback, hs, rfl⟩
    obtain ⟨m, hlong, hm⟩ := hright.holds
    have hmn : m = n := (signedDigits_iff.1 hm).1.symm.trans (signedDigits_iff.1 hs).1
    exact ⟨front, s, back, hright.eq, ⟨n, hmn ▸ hlong, hs, rfl⟩,
      fun t ht => ⟨hback t ht, hright.behind t ht⟩⟩

theorem exists_splitAtIndex_eq_error_iff : (∃ e, splitAtIndex segs = .error e) ↔
    ∃ front s back, segs = front ++ s :: back ∧ TooLong s ∧ ∀ t ∈ back, ¬ IsIndex t := by
  constructor
  · rintro ⟨e, he⟩
    obtain ⟨front, s, back, n, hright, hback, -⟩ := splitAtIndex_eq_error_iff_rightmost.1 he
    exact ⟨front, s, back, hright.eq, hright.holds, hback⟩
  · rintro ⟨front, s, back, rfl, hs, hback⟩
    -- the segment itself or one behind it is the rightmost that is too long
    obtain ⟨mid, t, tail, ht⟩ := exists_rightmost ⟨s, List.mem_cons_self (l := back), hs⟩
    obtain ⟨n, hlong, hn⟩ := ht.holds
    have htail : ∀ u ∈ tail, ¬ IsIndex u := by
      intro u hu
      refine hback u ?_
      have heq := ht.eq
      rcases mid with _ | ⟨_, mid⟩
      · cases heq
        exact hu
      · cases heq
        exact List.mem_append_right _ (List.mem_cons_of_mem _ hu)
    refine ⟨_, splitAtIndex_eq_error_iff_rightmost.2 ⟨front ++ mid, t, tail, n, ?_, htail, hn, rfl⟩⟩
    exact ⟨by rw [ht.eq, List.append_assoc], ht.holds, ht.behind⟩

/-! ## Grouping -/

theorem group_of_single (h : (segments path).length = 1) : group path = .ok ⟨path, path⟩ := by
  obtain ⟨s, hs⟩ := List.length_eq_one_iff.1 h
  rw [group, hs]

theorem group_eq_error_iff (h : (segments path).length ≠ 1) :
    group path = .error e ↔ splitAtIndex (segments path) = .error e := by
  rw [group]
  split
  · rename_i hnil
    exact absurd hnil (segments_ne_nil path)
  · rename_i s hs
    rw [hs] at h
    exact absurd rfl h
  · rename_i s rest _ hs
    rw [hs]
    rcases splitAtIndex (s :: rest) with e' | _ | ⟨front, back⟩ <;> simp

theorem group_split (hright : Rightmost IsIndex (segments path) front s back)
    (hg : g = ⟨join (front ++ [s]), join back⟩) (hback : ∀ t ∈ back, isIndex t = .ok false) :
    (∀ t ∈ segments g.field, ¬ IsIndex t) ∧ (back ≠ [] → g.object ++ "." ++ g.field = path) ∧
      (back = [] → g.object = path ∧ g.field = "") := by
  subst hg
  have hsplit : segments path = (front ++ [s]) ++ back := by
    rw [hright.eq, List.append_assoc, List.singleton_append]
  have hdot : ∀ t ∈ back, '.' ∉ t.toList := fun t ht =>
    dot_notMem_of_mem_segments (hsplit ▸ List.mem_append_right _ ht)
  refine ⟨fun t ht => (isIndex_eq_false_iff.1 (isIndex_of_mem_segments_join hdot hback t ht)).1,
    fun hne => ?_, fun hnil => ?_⟩
  · have hfront : front ++ [s] ≠ [] := List.append_ne_nil_of_right_ne_nil _ (List.cons_ne_nil _ _)
    rw [← join_append hfront hne, ← hsplit, join_segments]
  · rw [hnil, List.append_nil] at hsplit
    rw [hnil, ← hsplit, join_segments]
    exact ⟨rfl, rfl⟩

theorem group_eq_ok (h : (segments path).length ≠ 1) (hg : group path = .ok g) :
    (∃ front s back, Rightmost IsIndex (segments path) front s back ∧
      g = ⟨join (front ++ [s]), join back⟩ ∧ ∀ t ∈ back, isIndex t = .ok false) ∨
      (∀ s ∈ segments path, ¬ IsIndex s) ∧ (segments path).head? = some g.object ∧
        g.field = path := by
  rcases group_cases hg with ⟨-, hsingle⟩ | ⟨front, s, back, hsegs, -, hs, hback, hg⟩ |
    ⟨s, rest, hsegs, -, hnone, rfl⟩
  · rw [hsingle] at h
    exact absurd rfl h
  · exact .inl ⟨front, s, back, ⟨hsegs, hs, fun t ht => (isIndex_eq_false_iff.1 (hback t ht)).1⟩,
      hg, hback⟩
  · rw [hsegs]
    exact .inr ⟨fun t ht => (isIndex_eq_false_iff.1 (hnone t ht)).1, rfl, rfl⟩

/-! ## The main theorem -/

/-- **A path is grouped at its rightmost index.**  A single segment is object and field in one.  A
    longer path fails to be grouped iff one of its segments is too long and no index stands behind
    it, and the failure counts the digits of the rightmost such segment.  Otherwise the object
    reaches up to the rightmost index and the field is what stands behind it, and without an index
    the object is the first segment and the field is the whole path. -/
theorem group_at_rightmost (path : String) :
    ((segments path).length = 1 → group path = .ok ⟨path, path⟩) ∧
    ((segments path).length ≠ 1 →
      ((∃ e, group path = .error e) ↔ ∃ front s back, segments path = front ++ s :: back ∧
        TooLong s ∧ ∀ t ∈ back, ¬ IsIndex t) ∧
      (∀ e, group path = .error e → ∃ front s back n,
        Rightmost TooLong (segments path) front s back ∧ (∀ t ∈ back, ¬ IsIndex t) ∧
        SignedDigits n s ∧ e = .tooManyDigits (some n) ∧ e.kind = .value ∧
        e.message = "Exceeds the limit (4300 digits) for integer string conversion" ++
          (": value has " ++ Decimal.intText n ++ " digits") ++
          "; use sys.set_int_max_str_digits() to increase the limit") ∧
      ∀ g, group path = .ok g →
        (∃ front s back, Rightmost IsIndex (segments path) front s back ∧
          g = ⟨join (front ++ [s]), join back⟩ ∧ (∀ t ∈ segments g.field, ¬ IsIndex t) ∧
          (back ≠ [] → g.object ++ "." ++ g.field = path) ∧
          (back = [] → g.object = path ∧ g.field = "")) ∨
        (∀ s ∈ segments path, ¬ IsIndex s) ∧ (segments path).head? = some g.object ∧
          g.field = path) := by
  refine ⟨group_of_single, fun h => ⟨?_, fun e he => ?_, fun g hg => ?_⟩⟩
  · simp only [group_eq_error_iff h]
    exact exists_splitAtIndex_eq_error_iff
  · obtain ⟨front, s, back, n, hright, hback, hs, rfl⟩ :=
      splitAtIndex_eq_error_iff_rightmost.1 ((group_eq_error_iff h).1 he)
    exact ⟨front, s, back, n, hright, hback, hs, rfl, rfl, rfl⟩
  · refine (group_eq_ok h hg).imp_left ?_
    rintro ⟨front, s, back, hright, hsplit, hback⟩
    exact ⟨front, s, back, hright, hsplit, group_split hright hsplit hback⟩

end

end MetricDocs.Path
