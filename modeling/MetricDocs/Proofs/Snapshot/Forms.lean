/-
  The form of the objects of a snapshot.

  Whatever is written, the keys of the objects are distinct texts, and what stands at the leaves was
  written there:

  * `formed_add`: one more metric keeps a form that admits it, and the name and component of a new
    object;
  * `formed_addStreams`: so the objects of a whole snapshot are of every form that admits its
    metrics.
-/
import MetricDocs.Proofs.Path.Segments
import MetricDocs.Proofs.Value.Formed
import MetricDocs.Snapshot

namespace MetricDocs.Snapshot

section
variable {P : Key → Prop} {L : Value → Prop}
variable (hP : ∀ k, P k → k.IsText) (hT : ∀ s, P (.text s)) (hL : ∀ s, L (.text s))
include hP hT hL

theorem formed_newObject (name component : String) : (newObject name component).Formed P L := by
  have htext : ∀ s, (Value.text s).Formed P L := hL
  have h := (Value.formed_empty.put hP (hT "metric") (htext name)).put hP (hT "component")
    (htext component)
  simpa [newObject, Fields.put, Key.same] using h

theorem formed_objectFor {objects : Fields} (h : (Value.mapping objects).Formed P L)
    (name component : String) : (objectFor objects name component).Formed P L := by
  rw [objectFor]
  split
  · exact formed_newObject hP hT hL name component
  · exact formed_newObject hP hT hL name component
  · rename_i v hget
    exact h.get? hget

/-- **One more metric keeps the form.** -/
theorem formed_add {s t : Snapshot} (h : (Value.mapping s.objects).Formed P L) {path : String}
    {v : Value} (hv : v.Formed P L) (hadd : s.add path v = .ok t) :
    (Value.mapping t.objects).Formed P L := by
  rw [add] at hadd
  cases hgroup : Path.group path with
  | error e => rw [hgroup] at hadd; cases hadd
  | ok g =>
    rw [hgroup] at hadd
    simp only at hadd
    have hobject := formed_objectFor hP hT hL h g.object (Path.head path)
    generalize objectFor s.objects g.object (Path.head path) = object at hadd hobject
    obtain ⟨first, rest, hfield⟩ := List.exists_cons_of_ne_nil (Path.segments_ne_nil g.field)
    rw [hfield] at hadd
    cases object with
    | mapping fields =>
      rw [Value.place_mapping_cons] at hadd
      cases hplace : Fields.place? fields first rest v with
      | none =>
        rw [hplace] at hadd
        cases hadd
        exact h.put hP (hT _) hobject
      | some fields' =>
        rw [hplace] at hadd
        cases hadd
        exact h.put hP (hT _) (hobject.place? hP hT hv hplace)
    | _ => cases rest <;> simp [Value.place] at hadd

theorem formed_addAll {s : Snapshot} (h : (Value.mapping s.objects).Formed P L)
    {stream : List (String × Value)} (hv : ∀ m ∈ stream, m.2.Formed P L) :
    (Value.mapping (s.addAll stream).1.objects).Formed P L := by
  induction stream generalizing s with
  | nil => exact h
  | cons m stream ih =>
    obtain ⟨hm, hv⟩ := List.forall_mem_cons.1 hv
    rw [addAll]
    cases hadd : s.add m.1 m.2 with
    | error e => exact h
    | ok t => exact ih (formed_add hP hT hL h hm hadd) hv

/-- **The objects of assembled streams are of the form of their metrics.** -/
theorem formed_addStreams {s : Snapshot} (h : (Value.mapping s.objects).Formed P L)
    {streams : List (List (String × Value))}
    (hv : ∀ stream ∈ streams, ∀ m ∈ stream, m.2.Formed P L) :
    (Value.mapping (s.addStreams streams).1.objects).Formed P L := by
  induction streams generalizing s with
  | nil => exact h
  | cons stream streams ih =>
    obtain ⟨hstream, hv⟩ := List.forall_mem_cons.1 hv
    have hall := formed_addAll hP hT hL h hstream
    rw [addStreams]
    rcases heq : s.addAll stream with ⟨t, _ | e⟩
    · rw [heq] at hall
      exact ih hall hv
    · rwa [heq] at hall

end

end MetricDocs.Snapshot
