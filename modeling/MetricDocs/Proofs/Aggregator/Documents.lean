/-
  What a pass over the metrics writes.

  * `exists_lines`: the lines of a pass are told apart by the names of their objects;
  * `Written a ms L name line base object`: the line is the document of an object that holds the
    writes to it, and reads as that;
  * `lines_written` and `documents_written`: a sink that takes everything is given a line for every
    object, and such a document if no number is too long;
  * `Identified a name object doc`: the document names its object, the component and the time, as
    far as no metric of the object goes to these fields;
  * `documents_identified`: so does every document that a pass writes, after every run.
-/
import MetricDocs.Proofs.Aggregator.Lines
import MetricDocs.Proofs.Aggregator.Metrics
import MetricDocs.Proofs.Snapshot.Objects

namespace MetricDocs.Aggregator

open Snapshot (objectOf placeOf objectNames writesTo Assembled Holds)

/-- The text of a key that is one. -/
private def keyName : Key → String
  | .text s => s
  | _ => ""

theorem exists_lines {ms : Table} {s : Snapshot} (h : Assembled ms s)
    {taken : List ((Key × Value) × String)} (hsub : (taken.map Prod.fst).Sublist s.objects) :
    ∃ lines : List (String × String), lines.map Prod.snd = taken.map Prod.snd ∧
      (lines.map Prod.fst).Sublist (objectNames ms) ∧
      ∀ e ∈ lines, ∃ fields, ((.text e.1, .mapping fields), e.2) ∈ taken ∧
        Fields.get? s.objects (.text e.1) = some (.mapping fields) ∧
        Holds (writesTo e.1 ms) fields := by
  refine ⟨taken.map fun e => (keyName e.1.1, e.2), by rw [List.map_map]; rfl, ?_, ?_⟩
  · have hnames := (hsub.map Prod.fst).map keyName
    rw [h.names, List.map_map, List.map_map, List.map_map] at hnames
    rw [List.map_map]
    simpa [Function.comp_def, keyName] using hnames
  · refine List.forall_mem_map.2 fun e he => ?_
    obtain ⟨⟨k, v⟩, line⟩ := e
    obtain ⟨name, fields, heq, hget, hholds⟩ := h.exists_of_mem
      (hsub.subset (List.mem_map_of_mem he))
    cases heq
    exact ⟨fields, he, hget, hholds⟩

section
variable {a : Aggregator} {ms : Table} {name line : String} {base object : Fields}
variable {L : Value → Prop}

/-- A line that is the document of an object, which holds the writes to it. -/
structure Written (a : Aggregator) (ms : Table) (L : Value → Prop) (name line : String)
    (base object : Fields) : Prop where
  statics : StaticFields.decode a.statics = .mapping base
  holds : Holds (writesTo name ms) object
  formed_object : (Value.mapping object).Formed Json.SettledKey L
  formed : (document base (timestamp a.clock.second) object).Formed Json.SettledKey L
  read : Json.decode? line =
    some (Json.reread .compact (document base (timestamp a.clock.second) object))

theorem exists_written (htext : ∀ s, L (.text s)) (htuple : ∀ vs, ¬ L (.tuple vs))
    (hstatics : (StaticFields.decode a.statics).Formed Json.SettledKey L)
    (hholds : Holds (writesTo name ms) object)
    (hobject : (Value.mapping object).Formed Json.SettledKey L)
    (hline : documentLine a.statics (timestamp a.clock.second) (.mapping object) = .ok line) :
    ∃ base, Written a ms L name line base object := by
  obtain ⟨base, text, hbase, htext', rfl⟩ := documentLine_eq_ok hline
  rw [hbase] at hstatics
  have hdocument := @formed_document base object (timestamp a.clock.second) _ _
    Json.SettledKey.isText Json.settledKey_text htext hstatics hobject
  exact ⟨base, hbase, hholds, hobject, hdocument, decode?_line htuple hdocument htext'⟩

end

/-- **Every object has its line**, if the sink takes everything and each of them can be written. -/
theorem lines_written {a : Aggregator} {ms : Table} {s : Snapshot} (hs : a.assemble = (s, none))
    (h : Assembled ms s) (hsink : ∀ i, a.sink.writeFault i = none)
    (hline : ∀ e ∈ s.objects, ∃ line,
      documentLine a.statics (timestamp a.clock.second) e.2 = .ok line) :
    ∃ lines : List (String × String), a.publishMetrics.1.out = a.out ++ lines.map Prod.snd ∧
      ((∀ i, a.sink.flushFault i = none) → a.publishMetrics.2 = none) ∧
      lines.map Prod.fst = objectNames ms ∧
      ∀ e ∈ lines, ∃ object, Fields.get? s.objects (.text e.1) = some (.mapping object) ∧
        Holds (writesTo e.1 ms) object ∧
        documentLine a.statics (timestamp a.clock.second) (.mapping object) = .ok e.2 := by
  obtain ⟨taken, htaken, hlines, htook, hflush⟩ := publishMetrics_all a hs hsink hline
  obtain ⟨lines, hsnd, hsub, hall⟩ := exists_lines h
    (show (taken.map Prod.fst).Sublist s.objects by rw [htaken])
  refine ⟨lines, by rw [htook.out, hsnd], hflush, hsub.eq_of_length ?_, fun e he => ?_⟩
  · calc (lines.map Prod.fst).length = (taken.map Prod.snd).length := by
          rw [← hsnd, List.length_map, List.length_map]
      _ = (s.objects.map Prod.fst).length := by
          rw [← htaken, List.length_map, List.length_map, List.length_map]
      _ = (objectNames ms).length := by rw [h.names, List.length_map]
  · obtain ⟨object, hmem, hget, hholds⟩ := hall e he
    exact ⟨object, hget, hholds, hlines _ hmem⟩

theorem formed_objects {a : Aggregator} {stats : Table} {s : Snapshot} (hs : a.assemble = (s, none))
    (hstats : a.systemStats = .ok stats) :
    (Value.mapping s.objects).Formed Json.SettledKey fun v => ∀ vs, v ≠ .tuple vs :=
  formed_assemble Json.SettledKey.isText Json.settledKey_text (fun _ _ h => by cases h) hs hstats
    fun _ _ _ h => by cases h

/-- **Every object of a snapshot has a line** if no metric is too long. -/
theorem exists_line_of_short_metrics {fields : Fields} {a : Aggregator}
    (h : Reached (.mapping fields) a) {stats : Table} (hstats : a.systemStats = .ok stats)
    (hshort : ∀ m ∈ a.metrics stats, Decimal.tooLong m.2 = false) {s : Snapshot}
    (hs : a.assemble = (s, none)) (time : String) :
    ∀ e ∈ s.objects, ∃ line, documentLine a.statics time e.2 = .ok line := by
  intro e he
  obtain ⟨base, hbase⟩ := StaticFields.exists_decode h.statics
  have hobjects := formed_assemble Json.SettledKey.isText Json.settledKey_text Json.plain_text hs
    hstats fun m hm => Json.plain_int (hshort m hm)
  obtain ⟨name, object, rfl, hget, -⟩ := (assembled_of_assemble hs hstats).exists_of_mem he
  exact exists_documentLine time (StaticFields.settled_decode h.statics) hbase (hobjects.get? hget)

/-- **Every object has its document**, if the sink takes everything and no number is too long. -/
theorem documents_written {fields : Fields} {a : Aggregator} (h : Reached (.mapping fields) a)
    (hsink : ∀ i, a.sink.writeFault i = none) {stats : Table} (hstats : a.systemStats = .ok stats)
    (hshort : ∀ m ∈ a.metrics stats, Decimal.tooLong m.2 = false)
    (hp : ∀ m ∈ a.metrics stats, Path.Groupable m.1) :
    ∃ (s : Snapshot) (lines : List (String × String)), a.assemble = (s, none) ∧
      a.publishMetrics.1.out = a.out ++ lines.map Prod.snd ∧
      ((∀ i, a.sink.flushFault i = none) → a.publishMetrics.2 = none) ∧
      lines.map Prod.fst = objectNames (a.metrics stats) ∧
      ∀ e ∈ lines, ∃ base object, Fields.get? s.objects (.text e.1) = some (.mapping object) ∧
        documentLine a.statics (timestamp a.clock.second) (.mapping object) = .ok e.2 ∧
        Written a (a.metrics stats) Json.Plain e.1 e.2 base object := by
  obtain ⟨s, hs, hassembled⟩ := exists_assemble hstats hp
  have hstatics := StaticFields.settled_decode h.statics
  have hobjects := formed_assemble Json.SettledKey.isText Json.settledKey_text Json.plain_text hs
    hstats fun m hm => Json.plain_int (hshort m hm)
  obtain ⟨lines, hout, hflush, hnames, hall⟩ := lines_written hs hassembled hsink
    (exists_line_of_short_metrics h hstats hshort hs _)
  refine ⟨s, lines, hs, hout, hflush, hnames, fun e he => ?_⟩
  obtain ⟨object, hget, hholds, hdocument⟩ := hall e he
  obtain ⟨base, hwritten⟩ := exists_written Json.plain_text (fun vs hvs => hvs.2 vs rfl) hstatics
    hholds (hobjects.get? hget) hdocument
  exact ⟨base, object, hget, hdocument, hwritten⟩

/-! ## What a document says of itself -/

/-- The document names its object, the component and the time, as far as no metric of the object
    goes to these fields; a field at the place of the time stands there itself. -/
structure Identified (a : Aggregator) (name : String) (object doc : Value) : Prop where
  metric : (∀ p ∈ a.paths, objectOf p = name → placeOf p ≠ ["metric"]) →
    doc.at? [.text "metric"] = some (.text name)
  component : (∀ p ∈ a.paths, objectOf p = name → placeOf p ≠ ["component"]) →
    doc.at? [.text "component"] = some (.text (Path.head name))
  time : (∀ p ∈ a.paths, objectOf p = name → (placeOf p).head? ≠ some "@timestamp") →
    doc.at? [.text "@timestamp"] = some (.text (timestamp a.clock.second))
  own : (∃ p ∈ a.paths, objectOf p = name ∧ (placeOf p).head? = some "@timestamp") →
    ∃ v, object.at? [.text "@timestamp"] = some v ∧
      doc.at? [.text "@timestamp"] = some (Json.reread .compact v)

section
variable {a : Aggregator} {stats : Table} {name line : String} {base object : Fields}
variable {L : Value → Prop}

theorem Written.leaf (h : Written a (a.metrics stats) L name line base object) {ks : List Key}
    {v : Value} (hv : (Value.mapping object).Leaf ks v) :
    (Json.reread .compact (document base (timestamp a.clock.second) object)).Leaf ks
      (Json.reread .compact v) :=
  (Json.leaf_reread_iff h.formed).2
    ⟨v, document_leaf Json.SettledKey.isText h.formed_object hv, rfl⟩

/-- **The document of an object says what it is.** -/
theorem Written.identified (h : Written a (a.metrics stats) L name line base object)
    (hstats : a.systemStats = .ok stats) :
    Identified a name (.mapping object)
      (Json.reread .compact (document base (timestamp a.clock.second) object)) := by
  have hpaths : ∀ m ∈ a.metrics stats, m.1 ∈ a.paths := fun m hm =>
    mem_paths_of_mem hstats hm
  have htime := @at?_timestamp base object (timestamp a.clock.second) _ _ Json.SettledKey.isText
    h.formed_object
  -- a field that no metric goes to keeps what was put there first
  refine ⟨fun hnone => ?_, fun hnone => ?_, fun hnone => ?_, ?_⟩
  · have hleaf := h.holds.leaf_of_firstWrites (p := ["metric"]) List.mem_cons_self
      fun m hm => hnone m.1 (hpaths m hm)
    exact (h.leaf hleaf).1
  · have hleaf := h.holds.leaf_of_firstWrites (p := ["component"])
      (List.mem_cons_of_mem _ List.mem_cons_self) fun m hm => hnone m.1 (hpaths m hm)
    exact (h.leaf hleaf).1
  · have hget := h.holds.get?_eq_none (s := "@timestamp") (by decide) (by decide)
      fun m hm => hnone m.1 (hpaths m hm)
    rw [Json.at?_reread h.formed, htime, hget]
    rfl
  · rintro ⟨p, hp, hname, hhead⟩
    obtain ⟨m, hm, rfl⟩ := List.mem_map.1 ((mem_paths_metrics hstats).2 hp)
    obtain ⟨v, hv⟩ := h.holds.exists_get? hm hname hhead
    refine ⟨v, ?_, ?_⟩
    · rw [Value.at?_mapping_cons, hv, Option.bind_some, Value.at?_nil]
    · rw [Json.at?_reread h.formed, htime, hv]
      rfl

end

/-- **Documents identify themselves.**  After every run, each line that a pass over the metrics
    writes is the document of one object of its snapshot, no two of the same, and says what it is
    as far as no metric of the object goes to these fields. -/
theorem documents_identified {fields : Value} {a : Aggregator} (h : Reached fields a) :
    ∃ lines : List (String × String), a.publishMetrics.1.out = a.out ++ lines.map Prod.snd ∧
      (lines.map Prod.fst).Nodup ∧
      ∀ e ∈ lines, ∃ objects object doc, a.buildSnapshot.2 = .ok objects ∧
        Fields.get? objects (.text e.1) = some object ∧
        documentLine a.statics (timestamp a.clock.second) object = .ok e.2 ∧
        Json.decode? e.2 = some doc ∧ Identified a e.1 object doc := by
  rcases publishMetrics_some a with htook | ⟨s, taken, hs, hsub, hlines, htook⟩
  · exact ⟨[], htook.out, List.nodup_nil, by simp⟩
  · obtain ⟨stats, hstats, hassembled⟩ := exists_stats hs
    obtain ⟨lines, hsnd, hnames, hall⟩ := exists_lines hassembled hsub
    refine ⟨lines, by rw [htook.out, hsnd], hnames.nodup (Snapshot.nodup_objectNames _),
      fun e he => ?_⟩
    obtain ⟨object, hmem, hget, hholds⟩ := hall e he
    have hline := hlines _ hmem
    have hobjects := formed_objects hs hstats
    have hstatics := (StaticFields.settled_decode h.statics).mono (fun _ => id) fun v hv => hv.2
    obtain ⟨base, hwritten⟩ := exists_written (fun s vs hs => by cases hs)
      (fun vs hvs => hvs vs rfl) hstatics hholds (hobjects.get? hget) hline
    exact ⟨s.objects, .mapping object, _, (a.buildSnapshot_cases.2.2 _).2 ⟨s, hs, rfl⟩, hget, hline,
      hwritten.read, hwritten.identified hstats⟩

/-- Two documents that say what they are: of the counter's object and of the system. -/
theorem counter_identified : ∃ a : Aggregator, Reached (.mapping StaticFields.default) a ∧
    ∃ lines : List (String × String), a.publishMetrics.1.out = a.out ++ lines.map Prod.snd ∧
      lines.length = 2 ∧ ∀ e ∈ lines, ∃ doc, Json.decode? e.2 = some doc ∧
        doc.at? [.text "metric"] = some (.text e.1) ∧
        doc.at? [.text "@timestamp"] = some (.text "2014-01-01T00:00:00Z") := by
  have hreached := reached_after [.store (.update ⟨.counter, "a.1.b", []⟩ .add (.int 5))]
  have hfree : ∀ p ∈ (after [.store (.update ⟨.counter, "a.1.b", []⟩ .add (.int 5))]).paths,
      placeOf p ≠ ["metric"] ∧ (placeOf p).head? ≠ some "@timestamp" := by decide +kernel
  obtain ⟨-, written, -, hout', -, hnames, -⟩ := documents_written hreached (fun _ => rfl)
    (systemStats_eq (n := 0) (by decide +kernel)) (by decide +kernel) (by decide +kernel)
  obtain ⟨lines, hout, -, hall⟩ := documents_identified hreached
  refine ⟨_, hreached, lines, hout, ?_, fun e he => ?_⟩
  · have hlength := congrArg List.length (List.append_cancel_left (hout.symm.trans hout'))
    rw [List.length_map, List.length_map, ← @List.length_map _ _ written Prod.fst,
      hnames] at hlength
    rw [hlength]
    decide +kernel
  · obtain ⟨objects, object, doc, -, -, -, hread, hdoc⟩ := hall e he
    exact ⟨doc, hread, hdoc.metric fun p hp _ => (hfree p hp).1,
      (hdoc.time fun p hp _ => (hfree p hp).2).trans
        (congrArg (fun t => some (Value.text t)) (by decide +kernel))⟩

/-- A metric whose field is `@timestamp` stands where the time of the pass would: the component wins
    over what is added to it. -/
theorem timestamp_replaced : ∃ a : Aggregator, Reached (.mapping StaticFields.default) a ∧
    ∃ objects object line doc, a.buildSnapshot.2 = .ok objects ∧
      Fields.get? objects (.text "a.1") = some object ∧
      documentLine a.statics (timestamp a.clock.second) object = .ok line ∧
      line ∈ a.publishMetrics.1.out ∧ Json.decode? line = some doc ∧
      doc.at? [.text "@timestamp"] = some (.int 5) ∧
      doc.at? [.text "@timestamp"] ≠ some (.text (timestamp a.clock.second)) := by
  have hreached := reached_after [.store (.update ⟨.counter, "a.1.@timestamp", []⟩ .add (.int 5))]
  obtain ⟨s, lines, hs, hout, -, hnames, hall⟩ := documents_written hreached (fun _ => rfl)
    (systemStats_eq (n := 0) (by decide +kernel)) (by decide +kernel) (by decide +kernel)
  obtain ⟨e, he, hname⟩ : ∃ e ∈ lines, e.1 = "a.1" := by
    refine List.mem_map.1 ?_
    rw [hnames]
    decide +kernel
  obtain ⟨base, object, hget, hline, hwritten⟩ := hall e he
  rw [hname] at hget
  have hleaf : (Value.mapping object).Leaf (segmentKeys ["@timestamp"]) (.int 5) := by
    have hholds := hwritten.holds
    rw [hname] at hholds
    exact hholds.survives_iff.2 ⟨rfl, by decide +kernel⟩
  have hat := (hwritten.leaf hleaf).1
  refine ⟨_, hreached, s.objects, _, e.2, _, (buildSnapshot_cases _).2.2 _ |>.2 ⟨s, hs, rfl⟩, hget,
    hline, ?_, hwritten.read, hat, ?_⟩
  · rw [hout]
    exact List.mem_append_right _ (List.mem_map_of_mem he)
  · intro htext
    cases hat.symm.trans htext

/-- The object of a metric whose path is two halves of a character, an index and a name. -/
def halvesObject : Fields :=
  [(.text "metric", .surrogates [0xd83d, 0xde00, 0x2e, 0x31]),
    (.text "component", .surrogates [0xd83d, 0xde00]), (.text "n", .int 5)]

theorem settled_halvesObject : Json.Settled (.mapping halvesObject) := by
  have hplain : ∀ ps, Json.Plain (.surrogates ps) := fun ps =>
    ⟨fun _ => ⟨_, by rw [Json.encode]⟩, fun _ h => by cases h⟩
  have hcount : Json.Plain (.int 5) := Json.plain_int (by decide +kernel)
  simp [Json.Settled, halvesObject, Value.Formed, Value.FormedFields, Json.settledKey_text, hplain,
    hcount]

/-- A name of the two halves of a character is read back as the character: two escapes side by side
    are one character. -/
theorem halves_joined : ∃ line doc,
    documentLine "\x7b\x7d" (timestamp 0) (.mapping halvesObject) = .ok line ∧
      Json.decode? line = some doc ∧ doc.at? [.text "metric"] = some (.text "😀.1") ∧
      doc.at? [.text "metric"] ≠ Fields.get? halvesObject (.text "metric") := by
  have hstatics : StaticFields.encode (.mapping []) = .ok "\x7b\x7d" := rfl
  have hsettled := StaticFields.settled_decode hstatics
  obtain ⟨base, hbase⟩ := StaticFields.exists_decode hstatics
  obtain ⟨line, hline⟩ := exists_documentLine (timestamp 0) hsettled hbase settled_halvesObject
  obtain ⟨base, text, hbase, htext, rfl⟩ := documentLine_eq_ok hline
  rw [hbase] at hsettled
  have hformed := @formed_document base _ (timestamp 0) _ _ Json.SettledKey.isText
    Json.settledKey_text Json.plain_text hsettled settled_halvesObject
  have hleaf : (Value.mapping halvesObject).Leaf [.text "metric"]
      (.surrogates [0xd83d, 0xde00, 0x2e, 0x31]) := ⟨rfl, rfl⟩
  have hjoined : Json.respelled [0xd83d, 0xde00, 0x2e, 0x31] = .string "😀.1" := by decide +kernel
  have hread : (Json.reread .compact (document base (timestamp 0) halvesObject)).at?
      [.text "metric"] = some (.text "😀.1") := by
    rw [Json.at?_reread hformed, (document_leaf Json.SettledKey.isText settled_halvesObject hleaf).1,
      Option.map_some, Json.reread, hjoined]
    rfl
  exact ⟨_, _, hline, decode?_line (fun vs hvs => hvs.2 vs rfl) hformed htext, hread,
    fun h => by cases hread.symm.trans h⟩

/-- Two documents that do not say what they are. -/
theorem timestamp_replaced_halves_joined :
    (∃ a : Aggregator, Reached (.mapping StaticFields.default) a ∧
      ∃ objects object line doc, a.buildSnapshot.2 = .ok objects ∧
        Fields.get? objects (.text "a.1") = some object ∧
        documentLine a.statics (timestamp a.clock.second) object = .ok line ∧
        line ∈ a.publishMetrics.1.out ∧ Json.decode? line = some doc ∧
        doc.at? [.text "@timestamp"] = some (.int 5) ∧
        doc.at? [.text "@timestamp"] ≠ some (.text (timestamp a.clock.second))) ∧
    ∃ line doc, documentLine "\x7b\x7d" (timestamp 0) (.mapping halvesObject) = .ok line ∧
      Json.decode? line = some doc ∧ doc.at? [.text "metric"] = some (.text "😀.1") ∧
      doc.at? [.text "metric"] ≠ Fields.get? halvesObject (.text "metric") :=
  ⟨timestamp_replaced, halves_joined⟩

end MetricDocs.Aggregator
