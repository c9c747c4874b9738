/-
  Assembling a snapshot.

  The metrics that were written decide what a snapshot is, whatever streams they came in:

  * `objectNames ms` are the names of the objects in the order of their first metrics;
  * `writesTo K ms` are the writes to the object `K`, its name and component first;
  * `droppedFrom ms` are the metrics whose place was obstructed when they were written;
  * `Assembled ms s`: the snapshot `s` has these names, these metrics dropped, and objects that
    hold these writes; `Assembled.add` is the step, `assembled_addStreams` the whole.
-/
import MetricDocs.Proofs.Path.Segments
import MetricDocs.Proofs.Snapshot.Writes
import MetricDocs.Proofs.Store.Tables
import MetricDocs.Aggregator

namespace MetricDocs.Snapshot

/-- The name of the object of a path. -/
def objectOf (path : String) : String := (Path.keyOf path).object

/-- The place of a path in its object: the segments of its field. -/
def placeOf (path : String) : List String := Path.segments (Path.keyOf path).field

/-- What a new object is given: its own name, and the first segment of it. -/
def firstWrites (name : String) : List Write :=
  [(["metric"], .text name), (["component"], .text (Path.head name))]

/-- The writes to an object, in their order. -/
def writesTo (name : String) (ms : Table) : List Write :=
  firstWrites name ++
    (ms.filter fun m => objectOf m.1 = name).map fun m => (placeOf m.1, .int m.2)

/-- The names of the objects, each once, in the order of their first metrics. -/
def objectNames (ms : Table) : List String := (ms.map fun m => objectOf m.1).eraseDups

/-- The metrics whose place was obstructed by a write before them. -/
def droppedFrom (ms : Table) : List Dropped :=
  (ms.zipIdx.filter fun e =>
    Obstructed (writesTo (objectOf e.1.1) (ms.take e.2)) (placeOf e.1.1)).map
      fun e => ⟨e.1.1, Path.keyOf e.1.1⟩

/-! ## One more metric -/

section
variable {ms : Table} {name path : String} {n : Int}

theorem writesTo_append_self :
    writesTo (objectOf path) (ms ++ [(path, n)]) =
      writesTo (objectOf path) ms ++ [(placeOf path, .int n)] := by
  simp [writesTo]

theorem writesTo_append_of_ne (h : objectOf path ≠ name) :
    writesTo name (ms ++ [(path, n)]) = writesTo name ms := by
  simp [writesTo, h]

theorem writesTo_of_notMem (h : name ∉ objectNames ms) : writesTo name ms = firstWrites name := by
  have hnone : ms.filter (fun m => objectOf m.1 = name) = [] := by
    rw [List.filter_eq_nil_iff]
    intro m hm hname
    refine h (List.mem_eraseDups.2 (List.mem_map.2 ⟨m, hm, ?_⟩))
    simpa using hname
  rw [writesTo, hnone, List.map_nil, List.append_nil]

theorem mem_objectNames_append :
    name ∈ objectNames (ms ++ [(path, n)]) ↔ name ∈ objectNames ms ∨ name = objectOf path := by
  simp [objectNames, List.mem_eraseDups]

theorem objectNames_append_of_mem (h : objectOf path ∈ objectNames ms) :
    objectNames (ms ++ [(path, n)]) = objectNames ms := by
  rw [objectNames, List.map_append, List.map_singleton, eraseDups_concat]
  exact if_neg (not_not_intro h)

theorem objectNames_append_of_notMem (h : objectOf path ∉ objectNames ms) :
    objectNames (ms ++ [(path, n)]) = objectNames ms ++ [objectOf path] := by
  rw [objectNames, List.map_append, List.map_singleton, eraseDups_concat]
  exact if_pos h

theorem nodup_objectNames (ms : Table) : (objectNames ms).Nodup := nodup_eraseDups _

theorem droppedFrom_append :
    droppedFrom (ms ++ [(path, n)]) =
      droppedFrom ms ++ if Obstructed (writesTo (objectOf path) ms) (placeOf path) then
        [⟨path, Path.keyOf path⟩] else [] := by
  have htake : ms.zipIdx.filter (fun e => Obstructed
        (writesTo (objectOf e.1.1) ((ms ++ [(path, n)]).take e.2)) (placeOf e.1.1)) =
      ms.zipIdx.filter (fun e => Obstructed
        (writesTo (objectOf e.1.1) (ms.take e.2)) (placeOf e.1.1)) := by
    refine List.filter_congr fun e he => ?_
    have hlt : e.2 < ms.length := by simpa using (List.mem_zipIdx he).2.1
    rw [List.take_append_of_le_length hlt.le]
  rw [droppedFrom, List.zipIdx_append, List.filter_append, htake, List.map_append, droppedFrom]
  refine congrArg (HAppend.hAppend _) ?_
  split_ifs with h <;> simp [h]

end

/-! ## One step -/

/-- The snapshot that a sequence of metrics leaves. -/
structure Assembled (ms : Table) (s : Snapshot) : Prop where
  names : s.objects.map Prod.fst = (objectNames ms).map Key.text
  object : ∀ name ∈ objectNames ms, ∃ fields,
    Fields.get? s.objects (.text name) = some (.mapping fields) ∧ Holds (writesTo name ms) fields
  dropped : s.dropped = droppedFrom ms

theorem assembled_empty : Assembled [] Snapshot.empty where
  names := rfl
  object name h := by simp [objectNames] at h
  dropped := rfl

theorem holds_newObject (name : String) :
    Holds (firstWrites name)
      [(.text "metric", .text name), (.text "component", .text (Path.head name))] := by
  have hsolid : ∀ t, Solid (.text t) := fun t => ⟨rfl, by simp⟩
  have hmetric : Holds [(["metric"], .text name)] [(.text "metric", .text name)] :=
    holds_nil.append (hsolid name)
  have h : Holds (firstWrites name) _ := hmetric.append (hsolid (Path.head name))
  simpa [firstWrites, Fields.place?, Fields.put, Key.same] using h

section
variable {ms : Table} {s : Snapshot} {path : String}

theorem Assembled.get?_eq_none (h : Assembled ms s) {name : String} (hn : name ∉ objectNames ms) :
    Fields.get? s.objects (.text name) = none := by
  rw [Fields.get?_eq_none_iff (Key.isText_text _), h.names, List.mem_map]
  rintro ⟨t, ht, htn⟩
  cases htn
  exact hn ht

theorem Assembled.exists_of_mem (h : Assembled ms s) {e : Key × Value} (he : e ∈ s.objects) :
    ∃ name fields, e = (.text name, .mapping fields) ∧
      Fields.get? s.objects (.text name) = some (.mapping fields) ∧
      Holds (writesTo name ms) fields := by
  have hkey : e.1 ∈ s.objects.map Prod.fst := List.mem_map_of_mem he
  rw [h.names] at hkey
  obtain ⟨name, hname, hkey⟩ := List.mem_map.1 hkey
  obtain ⟨fields, hget, hholds⟩ := h.object name hname
  have hself : Fields.get? s.objects (.text name) = some e.2 := by
    refine (Fields.get?_eq_some_iff (fun e' he' => ?_) ?_).2 (hkey ▸ he)
    · have hmem : e'.1 ∈ s.objects.map Prod.fst := List.mem_map_of_mem he'
      rw [h.names] at hmem
      obtain ⟨t, -, ht⟩ := List.mem_map.1 hmem
      rw [← ht]
      exact Key.isText_text t
    · rw [h.names]
      exact (nodup_objectNames ms).map fun _ _ heq => Key.text.inj heq
  rw [hget, Option.some.injEq] at hself
  exact ⟨name, fields, by rw [hkey, hself], hget, hholds⟩

theorem Assembled.objectFor (h : Assembled ms s) (hp : Path.Groupable path) :
    ∃ fields, objectFor s.objects (objectOf path) (Path.head path) = .mapping fields ∧
      Holds (writesTo (objectOf path) ms) fields := by
  by_cases hn : objectOf path ∈ objectNames ms
  · obtain ⟨fields, hget, hholds⟩ := h.object _ hn
    exact ⟨fields, by rw [Snapshot.objectFor, hget], hholds⟩
  · have hhead : Path.head path = Path.head (objectOf path) := (Path.head_object hp.group_eq).symm
    rw [Snapshot.objectFor, h.get?_eq_none hn, newObject, writesTo_of_notMem hn, hhead]
    exact ⟨_, rfl, holds_newObject _⟩

theorem add_eq (hp : Path.Groupable path) {first : String} {rest : List String}
    (hplace : placeOf path = first :: rest) {fields : Fields} (v : Value)
    (hobject : objectFor s.objects (objectOf path) (Path.head path) = .mapping fields) :
    s.add path v = .ok
      ⟨Fields.put s.objects (.text (objectOf path))
          (.mapping ((Fields.place? fields first rest v).getD fields)),
        s.dropped ++ if Fields.place? fields first rest v = none then
          [⟨path, Path.keyOf path⟩] else []⟩ := by
  rw [add, hp.group_eq]
  simp only
  rw [← objectOf, hobject, ← placeOf, hplace, Value.place_mapping_cons]
  cases Fields.place? fields first rest v <;> simp

/-- **The step of assembly**: a metric more is written or dropped as the closed form says. -/
theorem Assembled.add (h : Assembled ms s) (hp : Path.Groupable path) (n : Int) :
    ∃ t, s.add path (.int n) = .ok t ∧ Assembled (ms ++ [(path, n)]) t := by
  obtain ⟨fields, hobject, hholds⟩ := h.objectFor hp
  obtain ⟨first, rest, hplace⟩ : ∃ first rest, placeOf path = first :: rest :=
    List.exists_cons_of_ne_nil (Path.segments_ne_nil _)
  -- the names of the objects, the objects, and what was dropped
  refine ⟨_, add_eq hp hplace (.int n) hobject, ?_, fun name hname => ?_, ?_⟩
  · by_cases hn : objectOf path ∈ objectNames ms
    · rw [Fields.keys_put_of_mem (Key.isText_text _), objectNames_append_of_mem hn, h.names]
      rw [h.names]
      exact List.mem_map_of_mem hn
    · have hnot : Key.text (objectOf path) ∉ s.objects.map Prod.fst :=
        (Fields.get?_eq_none_iff (Key.isText_text _)).1 (h.get?_eq_none hn)
      rw [Fields.put_of_notMem (Key.isText_text _) _ hnot, objectNames_append_of_notMem hn,
        List.map_append, h.names, List.map_append]
      rfl
  · by_cases hname' : name = objectOf path
    · subst hname'
      refine ⟨_, Fields.get?_put_self (Key.isText_text _) _ _, ?_⟩
      rw [writesTo_append_self, hplace]
      exact hholds.append ⟨rfl, by simp⟩
    · have hmem : name ∈ objectNames ms :=
        (mem_objectNames_append.1 hname).resolve_right hname'
      obtain ⟨fields', hget, hholds'⟩ := h.object name hmem
      refine ⟨fields', ?_, ?_⟩
      · rw [Fields.get?_put_of_ne (Key.isText_text _) (by simpa using hname'), hget]
      · rwa [writesTo_append_of_ne fun h' => hname' h'.symm]
  · rw [droppedFrom_append, h.dropped, hplace]
    simp only [hholds.place?_eq_none_iff]

end

/-! ## Whole streams -/

theorem Assembled.addAll {ms : Table} {s : Snapshot} (h : Assembled ms s) (more : Table)
    (hp : ∀ m ∈ more, Path.Groupable m.1) :
    ∃ t, s.addAll (Aggregator.stream more) = (t, none) ∧ Assembled (ms ++ more) t := by
  induction more generalizing ms s with
  | nil => exact ⟨s, rfl, by rwa [List.append_nil]⟩
  | cons m more ih =>
    obtain ⟨t, ht, hat⟩ := h.add (hp m List.mem_cons_self) m.2
    obtain ⟨u, hu, hau⟩ := ih hat fun m' hm' => hp m' (List.mem_cons_of_mem _ hm')
    refine ⟨u, ?_, by rwa [List.append_assoc] at hau⟩
    rw [Aggregator.stream, List.map_cons, Snapshot.addAll, ht]
    exact hu

theorem Assembled.addStreams {ms : Table} {s : Snapshot} (h : Assembled ms s)
    (streams : List Table) (hp : ∀ m ∈ streams.flatten, Path.Groupable m.1) :
    ∃ t, s.addStreams (streams.map Aggregator.stream) = (t, none) ∧
      Assembled (ms ++ streams.flatten) t := by
  induction streams generalizing ms s with
  | nil => exact ⟨s, rfl, by simpa using h⟩
  | cons stream streams ih =>
    rw [List.flatten_cons] at hp
    obtain ⟨t, ht, hat⟩ := h.addAll stream fun m hm => hp m (List.mem_append_left _ hm)
    obtain ⟨u, hu, hau⟩ := ih hat fun m hm => hp m (List.mem_append_right _ hm)
    refine ⟨u, ?_, by rwa [List.append_assoc] at hau⟩
    rw [List.map_cons, Snapshot.addStreams, ht]
    exact hu

theorem groupable_of_addAll {ms : Table} {s t : Snapshot}
    (h : s.addAll (Aggregator.stream ms) = (t, none)) : ∀ m ∈ ms, Path.Groupable m.1 := by
  induction ms generalizing s with
  | nil => simp
  | cons m ms ih =>
    rw [Aggregator.stream, List.map_cons, Snapshot.addAll] at h
    cases hadd : s.add m.1 (.int m.2) with
    | error e => rw [hadd] at h; cases h
    | ok u =>
      rw [hadd] at h
      refine List.forall_mem_cons.2 ⟨?_, ih h⟩
      rw [add] at hadd
      cases hgroup : Path.group m.1 with
      | error e => rw [hgroup] at hadd; cases hadd
      | ok g => exact ⟨g, hgroup⟩

theorem groupable_of_addStreams {streams : List Table} {s t : Snapshot}
    (h : s.addStreams (streams.map Aggregator.stream) = (t, none)) :
    ∀ m ∈ streams.flatten, Path.Groupable m.1 := by
  induction streams generalizing s with
  | nil => simp
  | cons ms streams ih =>
    rw [List.map_cons, Snapshot.addStreams] at h
    rcases heq : s.addAll (Aggregator.stream ms) with ⟨u, _ | e⟩
    · rw [heq] at h
      rw [List.flatten_cons]
      exact List.forall_mem_append.2 ⟨groupable_of_addAll heq, ih h⟩
    · rw [heq] at h
      cases h

/-- **Streams are assembled into the snapshot that their metrics leave.** -/
theorem assembled_addStreams (streams : List Table)
    (hp : ∀ m ∈ streams.flatten, Path.Groupable m.1) :
    ∃ s, Snapshot.empty.addStreams (streams.map Aggregator.stream) = (s, none) ∧
      Assembled streams.flatten s :=
  assembled_empty.addStreams streams hp

end MetricDocs.Snapshot
