/-
  What assembly loses, and whether it says so.

  A metric that a stream brought is accounted for if its object holds it at the end, if a later
  metric went to the same place, or if it was reported as dropped.  The final segment of a later
  metric may replace a whole subtree of earlier ones, and that is not reported:

  * `Kept s m`, `Superseded post m`, `Reported s m`: the three ways of being accounted for;
  * `Undercut post m`: a later metric of the same object went to a proper prefix of the place;
  * `accounted_iff`: a metric is accounted for iff it is not undercut, or superseded, or was
    obstructed from the start.
-/
import MetricDocs.Proofs.Snapshot.ClosedForm

namespace MetricDocs.Snapshot

/-- The object of a metric holds its value at its place. -/
def Kept (s : Snapshot) (m : String × Int) : Prop :=
  ∃ fields, Fields.get? s.objects (.text (objectOf m.1)) = some (.mapping fields) ∧
    (Value.mapping fields).at? (segmentKeys (placeOf m.1)) = some (.int m.2)

/-- A later metric has the same object and field. -/
def Superseded (post : Table) (m : String × Int) : Prop :=
  ∃ m' ∈ post, Path.keyOf m'.1 = Path.keyOf m.1

/-- A metric of this path was reported as dropped. -/
def Reported (s : Snapshot) (m : String × Int) : Prop :=
  ∃ d ∈ s.dropped, d.path = m.1

/-- A later metric of the same object has a place that leads to this one's. -/
def Undercut (post : Table) (m : String × Int) : Prop :=
  ∃ m' ∈ post, objectOf m'.1 = objectOf m.1 ∧
    placeOf m'.1 <+: placeOf m.1 ∧ placeOf m'.1 ≠ placeOf m.1

instance (post : Table) (m : String × Int) : Decidable (Superseded post m) :=
  inferInstanceAs (Decidable (∃ m' ∈ post, Path.keyOf m'.1 = Path.keyOf m.1))

instance (post : Table) (m : String × Int) : Decidable (Undercut post m) :=
  inferInstanceAs (Decidable (∃ m' ∈ post, objectOf m'.1 = objectOf m.1 ∧
    placeOf m'.1 <+: placeOf m.1 ∧ placeOf m'.1 ≠ placeOf m.1))

/-! ## Where a metric stands -/

section
variable {ms pre post : Table} {m m' : String × Int} {s : Snapshot}

theorem keyOf_eq_iff : Path.keyOf m'.1 = Path.keyOf m.1 ↔
    objectOf m'.1 = objectOf m.1 ∧ placeOf m'.1 = placeOf m.1 := by
  refine ⟨fun h => ⟨by rw [objectOf, h, objectOf], by rw [placeOf, h, placeOf]⟩, fun ⟨ho, hp⟩ => ?_⟩
  have hfield := Path.segments_injective hp
  rw [objectOf, objectOf] at ho
  cases h : Path.keyOf m'.1
  cases h' : Path.keyOf m.1
  rw [h, h'] at ho hfield
  exact Path.Group.mk.injEq .. ▸ ⟨ho, hfield⟩

theorem mem_writesTo_of_mem (h : m ∈ ms) :
    (placeOf m.1, Value.int m.2) ∈ writesTo (objectOf m.1) ms :=
  List.mem_append_right _ (List.mem_map_of_mem (List.mem_filter.2 ⟨h, by simp⟩))

theorem mem_objectNames_of_mem (h : m ∈ ms) : objectOf m.1 ∈ objectNames ms :=
  List.mem_eraseDups.2 (List.mem_map_of_mem h)

theorem writesTo_append (name : String) : writesTo name (pre ++ post) =
    writesTo name pre ++
      (post.filter fun m => objectOf m.1 = name).map fun m => (placeOf m.1, .int m.2) := by
  rw [writesTo, List.filter_append, List.map_append, writesTo, List.append_assoc]

theorem obstructed_iff : Obstructed (writesTo (objectOf m.1) (pre ++ m :: post)) (placeOf m.1) ↔
    Obstructed (writesTo (objectOf m.1) pre) (placeOf m.1) ∨ Undercut post m := by
  rw [List.append_cons, writesTo_append, writesTo_append_self]
  constructor
  · rintro ⟨w, hw, hp, hne⟩
    rcases List.mem_append.1 hw with hw | hw
    · rcases List.mem_append.1 hw with hw | hw
      · exact Or.inl ⟨w, hw, hp, hne⟩
      · rw [List.mem_singleton.1 hw] at hne
        exact absurd rfl hne
    · obtain ⟨m', hm', rfl⟩ := List.mem_map.1 hw
      obtain ⟨hm', ho⟩ := List.mem_filter.1 hm'
      exact Or.inr ⟨m', hm', by simpa using ho, hp, hne⟩
  · rintro (⟨w, hw, hp, hne⟩ | ⟨m', hm', ho, hp, hne⟩)
    · exact ⟨w, List.mem_append_left _ (List.mem_append_left _ hw), hp, hne⟩
    · refine ⟨(placeOf m'.1, .int m'.2), List.mem_append_right _ ?_, hp, hne⟩
      exact List.mem_map_of_mem (List.mem_filter.2 ⟨hm', by simpa using ho⟩)

/-- The last write to the place of a metric is its own, unless it is superseded. -/
theorem lastAt_of_not_superseded (h : ¬ Superseded post m) :
    lastAt (writesTo (objectOf m.1) (pre ++ m :: post)) (placeOf m.1) = some (.int m.2) := by
  induction post using List.reverseRecOn with
  | nil => rw [writesTo_append_self, lastAt_append, if_pos rfl]
  | append_singleton post m' ih =>
    have hpost : ¬ Superseded post m := fun ⟨u, hu, heq⟩ => h ⟨u, List.mem_append_left _ hu, heq⟩
    rw [← List.cons_append, ← List.append_assoc]
    by_cases ho : objectOf m'.1 = objectOf m.1
    · have hp : placeOf m'.1 ≠ placeOf m.1 := fun hp =>
        h ⟨m', List.mem_append_right _ (List.mem_singleton_self _), keyOf_eq_iff.2 ⟨ho, hp⟩⟩
      rw [← ho, writesTo_append_self, lastAt_append, if_neg hp, ho, ih hpost]
    · rw [writesTo_append_of_ne ho, ih hpost]

/-! ## What is dropped -/

theorem mem_droppedFrom {d : Dropped} : d ∈ droppedFrom ms ↔
    ∃ pre m post, ms = pre ++ m :: post ∧
      Obstructed (writesTo (objectOf m.1) pre) (placeOf m.1) ∧ d = ⟨m.1, Path.keyOf m.1⟩ := by
  simp only [droppedFrom, List.mem_map, List.mem_filter, decide_eq_true_eq]
  constructor
  · rintro ⟨⟨m, i⟩, ⟨hmem, hob⟩, rfl⟩
    obtain ⟨hi, rfl⟩ : ∃ hi, ms.get ⟨i, hi⟩ = m :=
      List.getElem?_eq_some_iff.1 (List.mem_zipIdx_iff_getElem?.1 hmem)
    refine ⟨ms.take i, _, ms.drop (i + 1), ?_, hob, rfl⟩
    simp
  · rintro ⟨pre, m, post, rfl, hob, rfl⟩
    refine ⟨(m, pre.length), ⟨List.mem_zipIdx_iff_getElem?.2 ?_, ?_⟩, rfl⟩
    · simp
    · rwa [List.take_left']
      rfl

theorem Assembled.reported_of_obstructed (h : Assembled (pre ++ m :: post) s)
    (hob : Obstructed (writesTo (objectOf m.1) pre) (placeOf m.1)) : Reported s m :=
  ⟨_, h.dropped ▸ mem_droppedFrom.2 ⟨pre, m, post, rfl, hob, rfl⟩, rfl⟩

theorem Assembled.obstructed_of_reported (h : Assembled (pre ++ m :: post) s)
    (hr : Reported s m) :
    Obstructed (writesTo (objectOf m.1) pre) (placeOf m.1) ∨ Superseded post m := by
  obtain ⟨d, hd, hpath⟩ := hr
  obtain ⟨pre', m', post', hsplit, hob, rfl⟩ := mem_droppedFrom.1 (h.dropped ▸ hd)
  simp only at hpath
  rcases List.append_eq_append_iff.1 hsplit with ⟨as, rfl, has⟩ | ⟨bs, rfl, -⟩
  · rcases as with _ | ⟨u, as⟩
    · cases has
      rw [List.append_nil] at hob
      exact Or.inl hob
    · cases has
      exact Or.inr ⟨m', by simp, by rw [hpath]⟩
  · obtain ⟨w, hw, hp, hne⟩ := hpath ▸ hob
    exact Or.inl ⟨w, writesTo_append _ ▸ List.mem_append_left _ hw, hp, hne⟩

/-! ## The account of one metric -/

theorem Assembled.kept_iff (h : Assembled (pre ++ m :: post) s) (hlast : ¬ Superseded post m) :
    Kept s m ↔ ¬ Obstructed (writesTo (objectOf m.1) pre) (placeOf m.1) ∧ ¬ Undercut post m := by
  obtain ⟨fields, hget, hholds⟩ := h.object _ (mem_objectNames_of_mem List.mem_append_cons_self)
  rw [← not_or, ← obstructed_iff]
  constructor
  · rintro ⟨fields', hget', hat⟩
    cases hget.symm.trans hget'
    exact (hholds.survives_iff.1 ⟨hat, rfl⟩).2
  · intro hfree
    exact ⟨fields, hget, (hholds.survives_iff.2 ⟨lastAt_of_not_superseded hlast, hfree⟩).1⟩

theorem Assembled.accounted_iff (h : Assembled (pre ++ m :: post) s) :
    (Kept s m ∨ Superseded post m ∨ Reported s m) ↔
      (¬ Undercut post m ∨ Superseded post m ∨
        Obstructed (writesTo (objectOf m.1) pre) (placeOf m.1)) := by
  by_cases hlast : Superseded post m
  · simp [hlast]
  · have hreported : Reported s m ↔ Obstructed (writesTo (objectOf m.1) pre) (placeOf m.1) :=
      ⟨fun hr => (h.obstructed_of_reported hr).resolve_right hlast, h.reported_of_obstructed⟩
    rw [h.kept_iff hlast, hreported]
    tauto

end

/-- **What assembly accounts for.**  Each metric of the streams is held at the end, superseded or
    reported, exactly if no later metric undercuts it, or one supersedes it, or it was obstructed
    when it was written. -/
theorem accounted_unless_undercut (streams : List Table)
    (hp : ∀ m ∈ streams.flatten, Path.Groupable m.1) (pre post : Table) (m : String × Int)
    (hm : streams.flatten = pre ++ m :: post) :
    ∃ s, Snapshot.empty.addStreams (streams.map Aggregator.stream) = (s, none) ∧
      ((Kept s m ∨ Superseded post m ∨ Reported s m) ↔
        (¬ Undercut post m ∨ Superseded post m ∨
          Obstructed (writesTo (objectOf m.1) pre) (placeOf m.1))) := by
  obtain ⟨s, hs, hassembled⟩ := assembled_addStreams streams hp
  exact ⟨s, hs, (hm ▸ hassembled).accounted_iff⟩

/-- A metric below another one's place is accounted for if it comes second. -/
theorem accounted_when_second :
    ∃ s, Snapshot.empty.addStreams ([[("a.1.b", 5), ("a.1.b.c", 6)]].map Aggregator.stream) =
        (s, none) ∧
      (Kept s ("a.1.b.c", 6) ∨ Superseded [] ("a.1.b.c", 6) ∨ Reported s ("a.1.b.c", 6)) := by
  obtain ⟨s, hs, haccounted⟩ := accounted_unless_undercut [[("a.1.b", 5), ("a.1.b.c", 6)]]
    (by decide +kernel) [("a.1.b", 5)] [] ("a.1.b.c", 6) rfl
  exact ⟨s, hs, haccounted.2 (by decide +kernel)⟩

/-- Coming first, it is lost without a report: the leaf replaces the mapping that holds it. -/
theorem lost_when_first :
    ∃ s, Snapshot.empty.addStreams ([[("a.1.b.c", 6)], [("a.1.b", 5)]].map Aggregator.stream) =
        (s, none) ∧
      ¬ (Kept s ("a.1.b.c", 6) ∨ Superseded [("a.1.b", 5)] ("a.1.b.c", 6) ∨
        Reported s ("a.1.b.c", 6)) := by
  obtain ⟨s, hs, hassembled⟩ :=
    assembled_addStreams [[("a.1.b.c", 6)], [("a.1.b", 5)]] (by decide +kernel)
  have hsplit : Assembled ([] ++ ("a.1.b.c", 6) :: [("a.1.b", 5)]) s := hassembled
  refine ⟨s, hs, fun h => absurd (hsplit.accounted_iff.1 h) ?_⟩
  decide +kernel

end MetricDocs.Snapshot
