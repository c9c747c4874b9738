/-
  Every document of a snapshot can be written.

  The static fields are accepted as they come, with keys of any kind, and the documents over them
  are written with their keys sorted, which fails where two keys cannot be compared.  It never does:
  what was accepted is read back with texts for keys, the objects have no others, and no number in
  them is too long.  So whether a pass over a snapshot fails is up to the sink.

  * `short_metrics`: no metric is too long if none in the store is, the time since the start being
    the integer part of a double, so that every object of the snapshot has a line;
  * `publish_snd_of_lines`: a pass over objects that have lines gives the first failure that the
    sink raises;
  * `assembled_documents_serialise`: both, after every run.
-/
import MetricDocs.Proofs.Decimal.Integers
import MetricDocs.Proofs.Aggregator.Documents
import MetricDocs.Proofs.Aggregator.Passes

namespace MetricDocs

/-- The failure that a sink gives a pass over `count` objects: the first one that a write raises, or
    else the one that the flush raises. -/
def Sink.raisedOver? (sink : Sink) (count : ℕ) : Option Failure :=
  ((List.range' sink.writes count).findSome? fun i => raised? (sink.writeFault i)).or
    (raised? (sink.flushFault sink.flushes))

namespace Aggregator

section
variable {a : Aggregator} {stats : Table}

/-! ## Numbers -/

/-- **No metric is too long** if none in the store is, and neither is the number of threads. -/
theorem short_metrics (hstats : a.systemStats = .ok stats)
    (hstore : ∀ kind, ∀ e ∈ a.store.table kind, Decimal.tooLong e.2 = false)
    (hthreads : Decimal.tooLong a.clock.threads = false) :
    ∀ m ∈ a.metrics stats, Decimal.tooLong m.2 = false := by
  refine List.forall_mem_append.2 ⟨List.forall_mem_append.2 ⟨fun m hm => ?_, hstore .timer⟩, ?_⟩
  · rcases Table.mem_of_mem_overlay hm with hcounter | hgauge
    · exact hstore .counter m hcounter
    · exact hstore .gauge m hgauge
  · rw [systemStats, Value.toWhole] at hstats
    cases huptime : Decimal.truncate? ((a.clock.mono - a.started) * 1000.0) with
    | none => rw [huptime] at hstats; cases hstats
    | some n =>
      rw [huptime] at hstats
      cases hstats
      exact List.forall_mem_cons.2
        ⟨Decimal.tooLong_of_truncate? huptime, List.forall_mem_singleton.2 hthreads⟩

/-! ## Failures -/

/-- **A pass over objects that all have lines gives a failure of the sink**, if any. -/
theorem publish_snd_of_lines {objects : Fields} (h : ∀ e ∈ objects, ∃ line,
    documentLine a.statics (timestamp a.clock.second) e.2 = .ok line) :
    (a.publish objects).2 = a.sink.raisedOver? objects.length := by
  obtain ⟨⟨ts, hwrote, -⟩, hresult⟩ :=
    wrote_writeObjects a (timestamp a.clock.second) (objects.map Prod.snd)
  -- every object has its line, so only the sink can fail a write
  have hfatal : ∀ e ∈ (objects.map Prod.snd).zipIdx a.sink.writes,
      a.fatal? (timestamp a.clock.second) e = Sink.raised? (a.sink.writeFault e.2) := by
    intro e he
    obtain ⟨object, hobject, hvalue⟩ := List.mem_map.1 (List.fst_mem_of_mem_zipIdx he)
    obtain ⟨line, hline⟩ := h object hobject
    rw [hvalue] at hline
    rw [fatal?, hline]
  have hwrites : ((objects.map Prod.snd).zipIdx a.sink.writes).findSome?
        (a.fatal? (timestamp a.clock.second)) =
      (List.range' a.sink.writes objects.length).findSome? fun i =>
        Sink.raised? (a.sink.writeFault i) := by
    rw [← List.head?_filterMap, List.filterMap_congr hfatal, List.head?_filterMap,
      ← @List.length_map _ _ objects Prod.snd, ← List.zipIdx_map_snd, List.findSome?_map]
    rfl
  rw [hwrites] at hresult
  rw [Sink.raisedOver?]
  rcases heq : a.writeObjects (timestamp a.clock.second) (objects.map Prod.snd) with ⟨b, _ | e⟩
  · rw [heq] at hwrote hresult
    simp only at hresult
    rw [publish_of_none a heq, ← hresult, Option.none_or, hwrote.flushFault, hwrote.flushes]
    cases Sink.raised? (a.sink.flushFault a.sink.flushes) <;> rfl
  · rw [heq] at hresult
    simp only at hresult
    rw [publish_of_some a heq, ← hresult, Option.some_or]

end

/-! ## The main theorem -/

/-- **Assembled documents always serialise.**  After every run on a new aggregator whose static
    fields are any mapping that was accepted, if no number in the store is too long to be written,
    and neither is the number of threads: every object of the snapshot that is built has a line, at
    any time, and so a pass over the metrics fails with the first failure that the sink raises, or
    not at all. -/
theorem assembled_documents_serialise {fields : Fields} {a : Aggregator}
    (h : Reached (.mapping fields) a)
    (hstore : ∀ kind, ∀ e ∈ a.store.table kind, Decimal.tooLong e.2 = false)
    (hthreads : Decimal.tooLong a.clock.threads = false) {objects : Fields}
    (hbuild : a.buildSnapshot.2 = .ok objects) :
    (∀ time, ∀ e ∈ objects, ∃ line, documentLine a.statics time e.2 = .ok line) ∧
      a.publishMetrics.2 = a.sink.raisedOver? objects.length := by
  obtain ⟨hsame, hclock, hobjects⟩ := a.buildSnapshot_cases
  obtain ⟨s, hs, rfl⟩ := (hobjects objects).1 hbuild
  obtain ⟨stats, hstats, -⟩ := exists_stats hs
  have hlines := exists_line_of_short_metrics h hstats (short_metrics hstats hstore hthreads) hs
  refine ⟨hlines, ?_⟩
  have hsink : a.buildSnapshot.1.sink = a.sink := by rw [buildSnapshot_fst]
  rw [publishMetrics_eq a hs, publish_snd_of_lines, hsink]
  rw [hsame.statics]
  exact hlines _

/-- Static fields whose keys cannot be compared with one another, at two levels. -/
def mixedKeys : Fields :=
  [(.int 1, .text "x"), (.null, .list [.tuple [.int 2], .bool true]),
    (.text "t", .mapping [(.bool true, .null), (.text "u", .int 7)])]

/-- Metrics below one another's places, and a sink that breaks at its second write. -/
def breaking : List Command :=
  [.store (.update ⟨.counter, "a.1.b.c", []⟩ .add (.int 6)),
    .store (.update ⟨.timer, "a.1.b", []⟩ .replace (.int 5)),
    .store (.update ⟨.gauge, "a.1.@timestamp.t", []⟩ .replace (.int (-1))),
    .replaceSink ⟨Sink.faultAt [(1, ⟨.runtime, "gone"⟩)], fun _ => none, 0.0, 0, 0⟩]

theorem exists_encode_mixedKeys :
    ∃ statics, StaticFields.encode (.mapping mixedKeys) = .ok statics := by
  have haccepted : (StaticFields.encode (.mapping mixedKeys)).toOption.isSome = true := by
    decide +kernel
  cases hencode : StaticFields.encode (.mapping mixedKeys) with
  | ok statics => exact ⟨statics, rfl⟩
  | error e => rw [hencode] at haccepted; cases haccepted

/-- All their documents can be written, and the pass gives the failure of the sink. -/
theorem mixedKeys_serialise : ∃ a objects, Reached (.mapping mixedKeys) a ∧
    a.buildSnapshot.2 = .ok objects ∧ objects.length = 2 ∧
    (∀ time, ∀ e ∈ objects, ∃ line, documentLine a.statics time e.2 = .ok line) ∧
    a.publishMetrics.2 = some (.raised .runtime "gone") := by
  obtain ⟨statics, hstatics⟩ := exists_encode_mixedKeys
  have hreached := reached_built hstatics breaking
  have hstats : (built mixedKeys breaking).systemStats = .ok startStats :=
    systemStats_start rfl rfl
  obtain ⟨s, hs, hassembled⟩ := exists_assembled hstats (by
    show ∀ p ∈ ["a.1.b.c", "a.1.@timestamp.t", "a.1.b", "system.uptime", "system.goroutines"],
      Path.Groupable p
    decide)
  have hbuild := ((buildSnapshot_cases _).2.2 s.objects).2 ⟨s, hs, rfl⟩
  have hlength : s.objects.length = 2 := by
    rw [← @List.length_map _ _ s.objects Prod.fst, hassembled.names, List.length_map]
    decide
  obtain ⟨hlines, hpublish⟩ := assembled_documents_serialise hreached (by
      intro kind e he
      refine Decimal.tooLong_eq_false_of_lt ?_
      revert e
      cases kind <;> decide)
    (Decimal.tooLong_eq_false_of_lt (by decide)) hbuild
  refine ⟨_, s.objects, hreached, hbuild, hlength, hlines, ?_⟩
  rw [hpublish, hlength]
  rfl

end Aggregator

end MetricDocs
