/-
  Objects and the paths that make them.

  Many paths belong to one object, and the first of them makes it.  Which one that is does not show:

  * `Path.group_object`: the name of an object, taken as a path, belongs to that object;
  * `add_of_isNew`: the object that a metric makes starts with a name and component that are told
    by the name alone;
  * `starts_alike`: so an object starts the same, whichever of its paths makes it.
-/
import MetricDocs.Proofs.Path.Scanning
import MetricDocs.Proofs.Value.Placing
import MetricDocs.Snapshot

namespace MetricDocs

/-- **The name of an object belongs to the object.** -/
theorem Path.group_object {path : String} {g : Path.Group} (h : Path.group path = .ok g) :
    ∃ field, Path.group g.object = .ok ⟨g.object, field⟩ := by
  rcases Path.group_cases h with ⟨rfl, -⟩ | ⟨init, s, back, hsegs, -, hs, -, rfl⟩ |
    ⟨s, rest, hsegs, -, -, rfl⟩
  · exact ⟨path, h⟩
  · have hdot : ∀ t ∈ init ++ [s], '.' ∉ t.toList := by
      intro t ht
      have hmem : t ∈ Path.segments path := by
        rw [hsegs, ← List.singleton_append, ← List.append_assoc]
        exact List.mem_append_left _ ht
      exact Path.dot_notMem_of_mem_segments hmem
    have hobject := Path.segments_join
      (List.append_ne_nil_of_right_ne_nil init (List.cons_ne_nil s [])) hdot
    by_cases hsingle : init = []
    · refine ⟨_, Path.group_of_single ?_⟩
      rw [hobject, hsingle]
      rfl
    · -- the name ends in its index, and its field is empty
      have hseveral : 2 ≤ (Path.segments (Path.join (init ++ [s]))).length := by
        rw [hobject, List.length_append]
        exact Nat.succ_le_succ (List.length_pos_of_ne_nil hsingle)
      exact ⟨_, Path.group_of_index hobject hseveral hs fun t ht => absurd ht List.not_mem_nil⟩
  · have hdot : '.' ∉ s.toList := Path.dot_notMem_of_mem_segments (hsegs ▸ List.mem_cons_self)
    refine ⟨s, Path.group_of_single ?_⟩
    rw [Path.segments_eq_singleton hdot]
    rfl

namespace Snapshot

/-- There is no object of a name yet, or null in its place. -/
def IsNew (objects : Fields) (name : String) : Prop :=
  Fields.get? objects (.text name) = none ∨ Fields.get? objects (.text name) = some .null

theorem objectFor_of_isNew {objects : Fields} {name : String} (h : IsNew objects name)
    (component : String) : objectFor objects name component = newObject name component := by
  rw [objectFor]
  rcases h with h | h <;> rw [h]

/-- **A metric of a new object is written into name and component**, and these stay alone if the
    metric is dropped. -/
theorem add_of_isNew {s : Snapshot} {path : String} {g : Path.Group} (h : Path.group path = .ok g)
    (hnew : IsNew s.objects g.object) (v : Value) :
    ∃ t placed, s.add path v = .ok t ∧
      (newObject g.object (Path.head path)).place (Path.segments g.field) v = .ok placed ∧
      Fields.get? t.objects (.text g.object) =
        some (placed.getD (newObject g.object (Path.head path))) := by
  obtain ⟨first, rest, hfield⟩ := List.exists_cons_of_ne_nil (Path.segments_ne_nil g.field)
  have hplace := Value.place_mapping_cons
    [(.text "metric", .text g.object), (.text "component", .text (Path.head path))] first rest v
  rw [← hfield] at hplace
  rw [add, h]
  simp only
  rw [objectFor_of_isNew hnew, newObject, hplace]
  cases Fields.place? _ first rest v with
  | none => exact ⟨_, none, rfl, rfl, Fields.get?_put_self (Key.isText_text _) _ _⟩
  | some written => exact ⟨_, some _, rfl, rfl, Fields.get?_put_self (Key.isText_text _) _ _⟩

/-- **An object starts the same, whichever of its paths makes it.**  The name of a path's object
    belongs to that object and begins with the same segment as the path.  So whatever path of the
    object comes first, its metric is written into the same name and component. -/
theorem starts_alike {path : String} {g : Path.Group} (h : Path.group path = .ok g) :
    (∃ field, Path.group g.object = .ok ⟨g.object, field⟩) ∧
      Path.head g.object = Path.head path ∧
      ∀ other g', Path.group other = .ok g' → g'.object = g.object →
        ∀ (s : Snapshot) (v : Value), IsNew s.objects g.object →
          ∃ t placed, s.add other v = .ok t ∧
            (newObject g.object (Path.head path)).place (Path.segments g'.field) v = .ok placed ∧
            Fields.get? t.objects (.text g.object) =
              some (placed.getD (newObject g.object (Path.head path))) := by
  refine ⟨Path.group_object h, Path.head_object h, fun other g' h' hobject s v hnew => ?_⟩
  have hhead : Path.head other = Path.head path := by
    rw [← Path.head_object h', hobject, Path.head_object h]
  rw [← hobject] at hnew ⊢
  rw [← hhead]
  exact add_of_isNew h' hnew v

/-- A path with an index and the name of its object, whose field is empty. -/
theorem indexed_starts_alike :
    Path.group "a.1.b.c" = .ok ⟨"a.1", "b.c"⟩ ∧ Path.group "a.1" = .ok ⟨"a.1", ""⟩ ∧
      ∃ t placed, empty.add "a.1" (.int 5) = .ok t ∧
        (newObject "a.1" (Path.head "a.1.b.c")).place (Path.segments "") (.int 5) = .ok placed ∧
        Fields.get? t.objects (.text "a.1") =
          some (placed.getD (newObject "a.1" (Path.head "a.1.b.c"))) := by
  have h : Path.group "a.1.b.c" = .ok ⟨"a.1", "b.c"⟩ := by rfl
  have h' : Path.group "a.1" = .ok ⟨"a.1", ""⟩ := by rfl
  exact ⟨h, h', (starts_alike h).2.2 _ _ h' rfl empty (.int 5) (.inl rfl)⟩

end Snapshot

end MetricDocs
