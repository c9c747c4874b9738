/-
  Segments of paths, and the object that a path belongs to.

  * `join_segments` and `segments_join`: taking a path apart and putting it together undo each
    other;
  * `splitAtIndex_append`: the two sides of the rightmost index are the segments again, and the
    first side is not empty;
  * `head_object`: a path and its object begin with the same segment.
-/
import Mathlib
import MetricDocs.Path

namespace MetricDocs.Path

/-! ## Taking apart and putting together -/

theorem sep_notMem_of_mem_splitOn {a : Char} {part : List Char} :
    ∀ {cs : List Char}, part ∈ cs.splitOn a → a ∉ part
  | [], h => by
    rw [List.splitOn_nil, List.mem_singleton] at h
    simp [h]
  | c :: cs, h => by
    rw [List.splitOn_cons_eq_if_modifyHead] at h
    split at h
    · rcases List.mem_cons.1 h with rfl | h
      · simp
      · exact sep_notMem_of_mem_splitOn h
    · rename_i hc
      rcases hs : cs.splitOn a with _ | ⟨first, rest⟩
      · exact absurd hs (List.splitOn_ne_nil a cs)
      · rw [hs, List.modifyHead_cons] at h
        have hmem : ∀ p ∈ first :: rest, a ∉ p := fun p hp =>
          @sep_notMem_of_mem_splitOn _ p cs (hs ▸ hp)
        rcases List.mem_cons.1 h with rfl | h
        · have := hmem first List.mem_cons_self
          have hca : a ≠ c := fun hac => hc (by simp [hac])
          simp [this, hca]
        · exact hmem part (List.mem_cons_of_mem _ h)

theorem segments_ne_nil (path : String) : segments path ≠ [] := by
  simp [segments, List.splitOn_ne_nil]

theorem dot_notMem_of_mem_segments {path s : String} (h : s ∈ segments path) :
    '.' ∉ s.toList := by
  obtain ⟨part, hpart, rfl⟩ := List.mem_map.1 h
  rw [String.toList_ofList]
  exact sep_notMem_of_mem_splitOn hpart

/-- **Joining the segments of a path gives the path.** -/
theorem join_segments (path : String) : join (segments path) = path := by
  have hid : (String.toList ∘ String.ofList : List Char → List Char) = id := by
    funext cs; simp
  rw [join, segments, List.map_map, hid, List.map_id, List.intercalate_splitOn,
    String.ofList_toList]

/-- **The segments of a joined path are those that were joined**, if none of them holds a dot. -/
theorem segments_join {segs : List String} (hne : segs ≠ []) (hdot : ∀ s ∈ segs, '.' ∉ s.toList) :
    segments (join segs) = segs := by
  have hid : (String.ofList ∘ String.toList : String → String) = id := by
    funext s; simp
  rw [segments, join, String.toList_ofList, List.splitOn_intercalate '.' _ (by simpa using hne),
    List.map_map, hid, List.map_id]
  intro l hl
  obtain ⟨s, hs, rfl⟩ := List.mem_map.1 hl
  exact hdot s hs

theorem segments_injective : Function.Injective segments :=
  Function.LeftInverse.injective join_segments

theorem segments_eq_singleton {s : String} (h : '.' ∉ s.toList) : segments s = [s] := by
  rw [segments, List.splitOn_eq_singleton h]
  simp

/-! ## First segments -/

theorem takeWhile_append_dot {cs tail : List Char} (h : '.' ∉ cs)
    (htail : ∀ c ∈ tail.head?, c = '.') : (cs ++ tail).takeWhile (· ≠ '.') = cs := by
  have hcs : ∀ c ∈ cs, decide (c ≠ '.') = true := by
    intro c hc
    rw [decide_eq_true_eq]
    rintro rfl
    exact h hc
  rw [List.takeWhile_append_of_pos hcs]
  cases tail with
  | nil => rw [List.takeWhile_nil, List.append_nil]
  | cons c tail =>
    have hc : c = '.' := htail c rfl
    rw [List.takeWhile_cons_of_neg (by simp [hc]), List.append_nil]

theorem head_eq {path s : String} {rest : List String} (h : segments path = s :: rest) :
    head path = s := by
  have hs : '.' ∉ s.toList := dot_notMem_of_mem_segments (h ▸ List.mem_cons_self)
  have hpath : path.toList = ['.'].intercalate ((s :: rest).map String.toList) := by
    rw [← h, ← String.toList_ofList (l := ['.'].intercalate _), ← join, join_segments]
  rw [head, hpath]
  cases rest with
  | nil =>
    have := @takeWhile_append_dot _ [] hs (by simp)
    rw [List.append_nil] at this
    rw [List.map_singleton, List.intercalate_singleton, this, String.ofList_toList]
  | cons t rest =>
    rw [List.map_cons, List.map_cons, List.intercalate_cons_cons, List.append_assoc,
      List.singleton_append, takeWhile_append_dot hs (by simp), String.ofList_toList]

/-! ## The object of a path -/

theorem splitAtIndex_append {segs front back : List String}
    (h : splitAtIndex segs = .ok (some (front, back))) : front ++ back = segs ∧ front ≠ [] := by
  induction segs generalizing front with
  | nil => simp [splitAtIndex] at h
  | cons s rest ih =>
    rw [splitAtIndex] at h
    split at h
    · cases h
    · rename_i f b hrest
      cases h
      exact ⟨by rw [List.cons_append, (ih hrest).1], List.cons_ne_nil _ _⟩
    · split at h
      · cases h
      · cases h; simp
      · cases h

/-- **A path and its object begin with the same segment.** -/
theorem head_object {path : String} {g : Group} (h : group path = .ok g) :
    head g.object = head path := by
  unfold group at h
  split at h
  · cases h; rfl
  · cases h; rfl
  · rename_i s rest _ hsegs
    split at h
    · cases h
    · rename_i front back hsplit
      cases h
      obtain ⟨happ, hne⟩ := splitAtIndex_append hsplit
      have hdot : ∀ t ∈ front, '.' ∉ t.toList := fun t ht =>
        @dot_notMem_of_mem_segments path t (hsegs ▸ happ ▸ List.mem_append_left _ ht)
      obtain ⟨f, fs, rfl⟩ := List.exists_cons_of_ne_nil hne
      have hfs : f = s := (List.cons.inj happ).1
      rw [head_eq (segments_join hne hdot), head_eq hsegs, hfs]
    · cases h
      have hdot : '.' ∉ s.toList :=
        @dot_notMem_of_mem_segments path s (hsegs ▸ List.mem_cons_self)
      rw [head_eq (segments_eq_singleton hdot), head_eq hsegs]

/-- A path that can be grouped. -/
def Groupable (path : String) : Prop := ∃ g, group path = .ok g

instance (path : String) : Decidable (Groupable path) :=
  match h : group path with
  | .ok g => .isTrue ⟨g, h⟩
  | .error _ => .isFalse fun ⟨_, hg⟩ => nomatch h.symm.trans hg

/-- The object and field of a path; a path that cannot be grouped counts as both. -/
def keyOf (path : String) : Group :=
  match group path with
  | .ok g => g
  | .error _ => ⟨path, path⟩

theorem Groupable.group_eq {path : String} (h : Groupable path) :
    group path = .ok (keyOf path) := by
  obtain ⟨g, hg⟩ := h
  rw [keyOf, hg]

end MetricDocs.Path
