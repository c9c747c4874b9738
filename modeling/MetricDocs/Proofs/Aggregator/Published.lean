/-
  From the store to the documents.

  * `Unambiguous a`: all paths can be grouped, no two of them share object and field, none leads
    through another one's field, and none goes to the name or the component;
  * `Faithful a stats fields name doc`: the document holds every metric of the object with the value
    that counts, and every other leaf is its name, component, time, or from the static fields;
  * `metrics_published`: an unambiguous aggregator publishes one faithful document for every object.
-/
import MetricDocs.Proofs.Aggregator.Documents

namespace MetricDocs.Aggregator

open Snapshot (objectOf placeOf objectNames writesTo Obstructed Holds)

/-- All paths can be grouped, no two of them share object and field, none leads through another
    one's field in the same object, and none goes to the name or the component. -/
structure Unambiguous (a : Aggregator) : Prop where
  groupable : ∀ p ∈ a.paths, Path.Groupable p
  distinct : ∀ p ∈ a.paths, ∀ q ∈ a.paths, Path.keyOf p = Path.keyOf q → p = q
  apart : ∀ p ∈ a.paths, ∀ q ∈ a.paths, objectOf p = objectOf q →
    placeOf p <+: placeOf q → placeOf p = placeOf q
  unreserved : ∀ p ∈ a.paths,
    (placeOf p).head? ≠ some "metric" ∧ (placeOf p).head? ≠ some "component"

/-- Where a leaf of the document of an object comes from: it is the name, the component or the time,
    it stands at the place of a metric, or it is a static field as it is read back. -/
inductive Origin (a : Aggregator) (fields : Fields) (name : String) : List Key → Value → Prop
  | metric (v : Value) : Origin a fields name [.text "metric"] v
  | component (v : Value) : Origin a fields name [.text "component"] v
  | time (v : Value) : Origin a fields name [.text "@timestamp"] v
  | place {p : String} (hp : p ∈ a.paths) (hname : objectOf p = name) (v : Value) :
      Origin a fields name (segmentKeys (placeOf p)) v
  | static {ks : List Key} {v : Value} (hleads : (Value.mapping fields).Leads ks v)
      (hleaf : v.isMapping = false) :
      Origin a fields name (ks.map Json.rereadKey) (Json.reread .compact (Json.reread .spaced v))

/-- The document of an object holds each metric of it with the value that counts, and no leaf comes
    from elsewhere. -/
structure Faithful (a : Aggregator) (stats : Table) (fields : Fields) (name : String)
    (doc : Value) : Prop where
  metric : doc.at? [.text "metric"] = some (.text name)
  value : ∀ p ∈ a.paths, objectOf p = name →
    ∃ n, a.current stats p = some n ∧ doc.at? (segmentKeys (placeOf p)) = some (.int n)
  origin : ∀ ks v, doc.Leaf ks v → Origin a fields name ks v

section
variable {a : Aggregator} {stats : Table} {name line : String} {base object : Fields}
variable {L : Value → Prop}

theorem Unambiguous.not_obstructed (h : a.Unambiguous) (hstats : a.systemStats = .ok stats)
    {p : String} (hp : p ∈ a.paths) :
    ¬ Obstructed (writesTo (objectOf p) (a.metrics stats)) (placeOf p) := by
  rintro ⟨⟨q, v⟩, hw, hprefix, hne⟩
  have hhead : ∀ s, q = [s] → (placeOf p).head? = some s := by
    rintro s rfl
    obtain ⟨rest, hrest⟩ := hprefix
    rw [← hrest]
    rfl
  rcases Snapshot.mem_writesTo_iff.1 hw with ⟨hq, -⟩ | ⟨hq, -⟩ | ⟨m, hm, ho, rfl, -⟩
  · exact (h.unreserved p hp).1 (hhead _ hq)
  · exact (h.unreserved p hp).2 (hhead _ hq)
  · have hm := mem_paths_of_mem hstats hm
    exact hne (h.apart m.1 hm p hp ho hprefix)

theorem Written.at?_current (h : Written a (a.metrics stats) L name line base object)
    (hu : a.Unambiguous) (hd : a.store.Distinct) (hstats : a.systemStats = .ok stats) {p : String}
    (hp : p ∈ a.paths) (hname : objectOf p = name) :
    ∃ n, a.current stats p = some n ∧
      (Json.reread .compact (document base (timestamp a.clock.second) object)).at?
        (segmentKeys (placeOf p)) = some (.int n) := by
  obtain ⟨n, hn⟩ := exists_current hd hstats hp
  have hlast := lastAt_of_current hd hstats (fun q hq => hu.distinct q hq p hp) hn
  subst hname
  have hleaf := h.holds.survives_iff.2 ⟨hlast, hu.not_obstructed hstats hp⟩
  exact ⟨n, hn, (h.leaf hleaf).1⟩

theorem Written.origin (h : Written a (a.metrics stats) L name line base object)
    (hstats : a.systemStats = .ok stats) {fields : Fields}
    (hstatics : StaticFields.encode (.mapping fields) = .ok a.statics) {ks : List Key} {v : Value}
    (hv : (Json.reread .compact (document base (timestamp a.clock.second) object)).Leaf ks v) :
    Origin a fields name ks v := by
  obtain ⟨u, hu, rfl⟩ := (Json.leaf_reread_iff h.formed).1 hv
  rcases leaf_of_document Json.SettledKey.isText h.formed_object hu with hu | ⟨rfl, -⟩ | hu
  · obtain ⟨p, rfl, hsurvives⟩ := (h.holds.leaf_iff _ _).1 hu
    rcases Snapshot.mem_writesTo_iff.1 (Snapshot.mem_of_lastAt hsurvives.1) with
      ⟨rfl, -⟩ | ⟨rfl, -⟩ | ⟨m, hm, hname, rfl, -⟩
    · exact .metric _
    · exact .component _
    · exact .place (mem_paths_of_mem hstats hm) hname _
  · exact .time _
  · obtain ⟨text, hencode, -⟩ := StaticFields.encode_eq_ok hstatics
    rw [← h.statics, StaticFields.decode_eq hstatics] at hu
    obtain ⟨ls, w, hleads, hleaf, rfl, rfl⟩ := Json.exists_of_leaf_reread rfl hencode hu
    exact .static hleads hleaf

end

/-- **No metric is lost, misplaced or invented.**  After every run of an aggregator over encodable
    static fields, a pass over unambiguous metrics gives a sink that takes everything one line for
    every object, and each reads as a faithful document of its object. -/
theorem metrics_published {fields : Fields} {a : Aggregator} (h : Reached (.mapping fields) a)
    (hsink : ∀ i, a.sink.writeFault i = none) {stats : Table} (hstats : a.systemStats = .ok stats)
    (hshort : ∀ m ∈ a.metrics stats, Decimal.tooLong m.2 = false) (hu : a.Unambiguous) :
    ∃ lines : List (String × String), a.publishMetrics.1.out = a.out ++ lines.map Prod.snd ∧
      ((∀ i, a.sink.flushFault i = none) → a.publishMetrics.2 = none) ∧
      (lines.map Prod.fst).Nodup ∧
      (∀ name, name ∈ lines.map Prod.fst ↔ ∃ p ∈ a.paths, objectOf p = name) ∧
      ∀ e ∈ lines, ∃ doc, Json.decode? e.2 = some doc ∧ Faithful a stats fields e.1 doc := by
  have hmem := fun p => @mem_paths_metrics a stats p hstats
  obtain ⟨s, lines, -, hout, hflush, hnames, hall⟩ := documents_written h hsink hstats hshort
    fun m hm => hu.groupable m.1 ((hmem _).1 (List.mem_map_of_mem hm))
  refine ⟨lines, hout, hflush, hnames ▸ Snapshot.nodup_objectNames _, fun name => ?_,
    fun e he => ?_⟩
  · rw [hnames, objectNames, List.mem_eraseDups, List.mem_map]
    constructor
    · rintro ⟨m, hm, rfl⟩
      exact ⟨m.1, (hmem _).1 (List.mem_map_of_mem hm), rfl⟩
    · rintro ⟨p, hp, rfl⟩
      obtain ⟨m, hm, rfl⟩ := List.mem_map.1 ((hmem p).2 hp)
      exact ⟨m, hm, rfl⟩
  · obtain ⟨base, object, -, -, hwritten⟩ := hall e he
    refine ⟨_, hwritten.read, ?_, fun p hp hname => ?_, fun ks v hv => ?_⟩
    · refine (hwritten.identified hstats).metric fun p hp _ hplace => ?_
      exact (hu.unreserved p hp).1 (by rw [hplace]; rfl)
    · exact hwritten.at?_current hu h.distinct hstats hp hname
    · exact hwritten.origin hstats h.statics hv

/-- A gauge counts over a counter of the same path, beside a timer and nested static fields. -/
theorem gauge_published : ∃ a : Aggregator,
    Reached (.mapping [(.text "@service", .text "benthos"),
      (.text "tags", .mapping [(.text "env", .text "dev")])]) a ∧
    ∃ lines : List (String × String), a.publishMetrics.1.out = a.out ++ lines.map Prod.snd ∧
      ∃ e ∈ lines, e.1 = "input.1" ∧ ∃ doc, Json.decode? e.2 = some doc ∧
        doc.at? [.text "count"] = some (.int 3) := by
  have hreached : Reached (.mapping [(.text "@service", .text "benthos"),
      (.text "tags", .mapping [(.text "env", .text "dev")])])
      ((start "\x7b\"@service\": \"benthos\", \"tags\": \x7b\"env\": \"dev\"\x7d\x7d"
        (.named "") .willing .start).run
          [.store (.update ⟨.counter, "input.1.count", []⟩ .add (.int 7)),
          .store (.update ⟨.gauge, "input.1.count", []⟩ .replace (.int 3)),
          .store (.update ⟨.timer, "output.lag", []⟩ .replace (.int 9))]) :=
    ⟨_, _, _, _, _, rfl, rfl⟩
  refine ⟨_, hreached, ?_⟩
  obtain ⟨lines, hout, -, -, hnames, hall⟩ := metrics_published hreached (fun _ => rfl)
    (systemStats_eq (n := 0) (by decide +kernel)) (by decide +kernel)
    ⟨by decide +kernel, by decide +kernel, by decide +kernel, by decide +kernel⟩
  obtain ⟨e, he, hname⟩ := List.mem_map.1 ((hnames "input.1").2
    ⟨"input.1.count", by decide +kernel, by decide +kernel⟩)
  obtain ⟨doc, hread, hdoc⟩ := hall e he
  obtain ⟨n, hn, hat⟩ := hdoc.value "input.1.count" (by decide +kernel)
    (by rw [hname]; decide +kernel)
  have hgauge : n = 3 := Option.some.inj (hn.symm.trans (by decide +kernel))
  have hplace : placeOf "input.1.count" = ["count"] := by decide +kernel
  rw [hplace, hgauge] at hat
  exact ⟨lines, hout, e, he, hname, doc, hread, hat⟩

end MetricDocs.Aggregator
