/-
  When a pass comes through, and what it writes.

  * `completes_iff`: a pass comes through iff the system has stats, all paths can be grouped, and no
    number that survives in an object is too long;
  * `ShowsLong a path`: at the place of the path the snapshot shows such a number
    (`showsLong_iff`);
  * `took_until_long`: a pass ends at the first object that shows one;
  * `Emitted a lines`: what a pass writes, each line with the name of its object; something is
    written by every pass (`exists_emitted_some`), and something for every object by one over
    objects that all have a line (`emitted_of_lines`).
-/
import MetricDocs.Proofs.Aggregator.Documents

namespace MetricDocs.Aggregator

open Snapshot (objectOf placeOf objectNames writesTo lastAt Obstructed Survives Assembled Holds)

/-! ## When a pass comes through -/

section
variable {a : Aggregator} {stats ms : Table} {base object : Fields} {name time line : String}

theorem short_of_line (hstatics : Json.Settled (StaticFields.decode a.statics))
    (hobject : (Value.mapping object).Formed Json.SettledKey fun v => ∀ vs, v ≠ .tuple vs)
    (hline : documentLine a.statics time (.mapping object) = .ok line) {ks : List Key} {n : Int}
    (hleaf : (Value.mapping object).Leaf ks (.int n)) : Decimal.tooLong n = false := by
  obtain ⟨base, text, hbase, htext, -⟩ := documentLine_eq_ok hline
  rw [hbase] at hstatics
  have hdocument := @formed_document base object time _ _ Json.SettledKey.isText
    Json.settledKey_text (fun _ _ h => by cases h) (hstatics.mono (fun _ => id) fun _ hv => hv.2)
    hobject
  have hleaf := @document_leaf base object time _ _ Json.SettledKey.isText _ _ hobject hleaf
  obtain ⟨digits, hdigits⟩ := Json.exists_encode_at? Json.SettledKey.isText hdocument htext hleaf.1
  rw [Json.encode] at hdigits
  exact (Json.intLiteral_eq_ok hdigits).1

theorem exists_line_of_short (hstatics : Json.Settled (StaticFields.decode a.statics))
    (hbase : StaticFields.decode a.statics = .mapping base)
    (hobject : (Value.mapping object).Formed Json.SettledKey fun v => ∀ vs, v ≠ .tuple vs)
    (hholds : Holds (writesTo name ms) object)
    (hshort : ∀ p n, Survives (writesTo name ms) p (.int n) → Decimal.tooLong n = false) :
    ∃ line, documentLine a.statics time (.mapping object) = .ok line := by
  have hplain : ∀ ks w, (Value.mapping object).Leaf ks w →
      w.Formed Json.SettledKey Json.Plain := by
    intro ks w hw
    obtain ⟨p, rfl, hs⟩ := (hholds.leaf_iff ks w).1 hw
    rcases Snapshot.mem_writesTo_iff.1 (Snapshot.mem_of_lastAt hs.1) with
      ⟨-, rfl⟩ | ⟨-, rfl⟩ | ⟨m, -, -, -, rfl⟩
    · exact Json.plain_text _
    · exact Json.plain_text _
    · exact Json.plain_int (hshort p _ hs)
  exact exists_documentLine time hstatics hbase (hobject.of_leaf Json.SettledKey.isText hplain)

theorem mem_objects {s : Snapshot} (hs : a.assemble = (s, none)) (h : a.systemStats = .ok stats)
    (hget : Fields.get? s.objects (.text name) = some (.mapping object)) :
    (Key.text name, Value.mapping object) ∈ s.objects :=
  Fields.mem_of_get? (fun e he => ((Value.formed_mapping_iff.1 (formed_objects hs h)).2 e he).1.1)
    hget

theorem exists_base (hsink : ∀ i, a.sink.writeFault i = none) (hpass : a.publishMetrics.2 = none) :
    ∃ base, StaticFields.decode a.statics = .mapping base := by
  obtain ⟨⟨s, hs, hlines⟩, -⟩ := (publishMetrics_eq_none_iff a hsink).1 hpass
  obtain ⟨stats, hstats, hassembled⟩ := exists_stats hs
  have hpath : "system.uptime" ∈ (a.metrics stats).paths := by
    rw [mem_paths_metrics hstats]
    exact List.mem_append_right _ List.mem_cons_self
  obtain ⟨m, hm, -⟩ := List.mem_map.1 hpath
  obtain ⟨object, hget, -⟩ := hassembled.object _ (Snapshot.mem_objectNames_of_mem hm)
  obtain ⟨line, hline⟩ := hlines _ (mem_objects hs hstats hget)
  obtain ⟨base, -, hbase, -⟩ := documentLine_eq_ok hline
  exact ⟨base, hbase⟩

/-- **When a pass comes through**, with a sink that takes everything: if the system has stats, all
    paths can be grouped, no number that an object shows is too long, and so does the flush. -/
theorem completes_iff (hstatics : Json.Settled (StaticFields.decode a.statics))
    (hbase : StaticFields.decode a.statics = .mapping base)
    (hsink : ∀ i, a.sink.writeFault i = none) :
    a.publishMetrics.2 = none ↔
      (∃ stats, a.systemStats = .ok stats ∧ (∀ p ∈ a.paths, Path.Groupable p) ∧
        ∀ name p n, Survives (writesTo name (a.metrics stats)) p (.int n) →
          Decimal.tooLong n = false) ∧
      ∀ f, a.sink.flushFault a.sink.flushes = some f → f.kind.ofSink = true := by
  rw [publishMetrics_eq_none_iff a hsink]
  refine and_congr_left fun _ => ⟨?_, ?_⟩
  · rintro ⟨s, hs, hlines⟩
    obtain ⟨stats, hstats, hgroupable⟩ := groupable_of_assemble hs
    have hassembled := assembled_of_assemble hs hstats
    refine ⟨stats, hstats, fun p hp => ?_, fun name p n hsurvives => ?_⟩
    · obtain ⟨m, hm, rfl⟩ := List.mem_map.1 ((mem_paths_metrics hstats).2 hp)
      exact hgroupable m hm
    · have hname : name ∈ objectNames (a.metrics stats) := by
        obtain ⟨m, hm, rfl, -⟩ := hsurvives.exists_metric
        exact Snapshot.mem_objectNames_of_mem hm
      obtain ⟨object, hget, hholds⟩ := hassembled.object name hname
      obtain ⟨line, hline⟩ := hlines _ (mem_objects hs hstats hget)
      exact short_of_line hstatics ((formed_objects hs hstats).get? hget) hline
        (hholds.survives_iff.2 hsurvives)
  · rintro ⟨stats, hstats, hgroupable, hshort⟩
    obtain ⟨s, hs, hassembled⟩ := exists_assembled hstats hgroupable
    refine ⟨s, hs, fun e he => ?_⟩
    obtain ⟨name, object, rfl, hget, hholds⟩ := hassembled.exists_of_mem he
    exact exists_line_of_short hstatics hbase ((formed_objects hs hstats).get? hget) hholds
      (hshort name)

end

/-! ## What is written -/

/-- The lines that a pass over the metrics writes, each with the name of its object. -/
structure Emitted (a : Aggregator) (lines : List (String × String)) : Prop where
  out : a.publishMetrics.1.out = a.out ++ lines.map Prod.snd
  nodup : (lines.map Prod.fst).Nodup
  line : ∀ e ∈ lines, ∃ objects object, a.buildSnapshot.2 = .ok objects ∧
    Fields.get? objects (.text e.1) = some object ∧
    documentLine a.statics (timestamp a.clock.second) object = .ok e.2

/-- At the place of a path the snapshot shows a number that is too long to be written. -/
def ShowsLong (a : Aggregator) (path : String) : Prop :=
  ∃ objects object n, a.buildSnapshot.2 = .ok objects ∧
    Fields.get? objects (.text (objectOf path)) = some object ∧
    object.at? (segmentKeys (placeOf path)) = some (.int n) ∧ Decimal.tooLong n = true

section
variable {a : Aggregator} {stats : Table} {s : Snapshot} {path : String}

theorem showsLong_iff (hs : a.assemble = (s, none)) (h : a.systemStats = .ok stats)
    (hassembled : Assembled (a.metrics stats) s) (hpath : path ∈ a.paths) :
    a.ShowsLong path ↔ ∃ n, Survives (writesTo (objectOf path) (a.metrics stats)) (placeOf path)
      (.int n) ∧ Decimal.tooLong n = true := by
  have hbuild := (a.buildSnapshot_cases.2.2 s.objects).2 ⟨s, hs, rfl⟩
  obtain ⟨m, hm, rfl⟩ := List.mem_map.1 ((mem_paths_metrics h).2 hpath)
  obtain ⟨object, hget, hholds⟩ := hassembled.object _ (Snapshot.mem_objectNames_of_mem hm)
  constructor
  · rintro ⟨objects, object', n, hbuild', hget', hat, hlong⟩
    cases hbuild.symm.trans hbuild'
    cases hget.symm.trans hget'
    exact ⟨n, hholds.survives_iff.1 ⟨hat, rfl⟩, hlong⟩
  · rintro ⟨n, hsurvives, hlong⟩
    exact ⟨s.objects, .mapping object, n, hbuild, hget, (hholds.survives_iff.2 hsurvives).1, hlong⟩

theorem ShowsLong.exists_survives (hlong : a.ShowsLong path) (h : a.systemStats = .ok stats)
    (hpath : path ∈ a.paths) :
    ∃ n, Survives (writesTo (objectOf path) (a.metrics stats)) (placeOf path) (.int n) ∧
      Decimal.tooLong n = true := by
  obtain ⟨objects, -, -, hbuild, -⟩ := id hlong
  obtain ⟨s, hs, -⟩ := (a.buildSnapshot_cases.2.2 objects).1 hbuild
  exact (showsLong_iff hs h (assembled_of_assemble hs h) hpath).1 hlong

theorem short_of_not_showsLong (hs : a.assemble = (s, none)) (h : a.systemStats = .ok stats)
    (hassembled : Assembled (a.metrics stats) s) (hlong : ∀ p ∈ a.paths, ¬ a.ShowsLong p)
    {name : String} {p : List String} {n : Int}
    (hsurvives : Survives (writesTo name (a.metrics stats)) p (.int n)) :
    Decimal.tooLong n = false := by
  obtain ⟨m, hm, rfl, rfl, -⟩ := hsurvives.exists_metric
  have hpath : m.1 ∈ a.paths := mem_paths_of_mem h hm
  rw [← Bool.not_eq_true]
  exact fun hn => hlong m.1 hpath ((showsLong_iff hs h hassembled hpath).2 ⟨n, hsurvives, hn⟩)

theorem exists_line_of_not_showsLong {fields : Fields} (hreached : Reached (.mapping fields) a)
    (hs : a.assemble = (s, none)) (h : a.systemStats = .ok stats)
    (hassembled : Assembled (a.metrics stats) s) (hlong : ∀ p ∈ a.paths, ¬ a.ShowsLong p)
    {e : Key × Value} (he : e ∈ s.objects) :
    ∃ line, documentLine a.statics (timestamp a.clock.second) e.2 = .ok line := by
  obtain ⟨base, hbase⟩ := StaticFields.exists_decode hreached.statics
  obtain ⟨name, object, rfl, hget, hholds⟩ := hassembled.exists_of_mem he
  exact exists_line_of_short (StaticFields.settled_decode hreached.statics) hbase
    ((formed_objects hs h).get? hget) hholds fun p n hsurvives =>
      short_of_not_showsLong hs h hassembled hlong hsurvives

theorem not_showsLong_of_short (h : a.systemStats = .ok stats)
    (hshort : ∀ m ∈ a.metrics stats, Decimal.tooLong m.2 = false) (hpath : path ∈ a.paths) :
    ¬ a.ShowsLong path := by
  intro hlong
  obtain ⟨n, hsurvives, hn⟩ := hlong.exists_survives h hpath
  obtain ⟨m, hm, -, -, rfl⟩ := hsurvives.exists_metric
  rw [hshort m hm] at hn
  cases hn

/-- **A pass ends at the first object that shows a long number.** -/
theorem took_until_long {fields : Fields} (hreached : Reached (.mapping fields) a)
    (hsink : ∀ i, a.sink.writeFault i = none) (h : a.systemStats = .ok stats)
    (hgroupable : ∀ p ∈ a.paths, Path.Groupable p) {pre post : List String} {name : String}
    (hnames : objectNames (a.metrics stats) = pre ++ name :: post)
    (hpre : ∀ m ∈ a.metrics stats, objectOf m.1 ∈ pre → Decimal.tooLong m.2 = false)
    {p : List String} {n : Int} (hsurvives : Survives (writesTo name (a.metrics stats)) p (.int n))
    (hlong : Decimal.tooLong n = true) :
    ∃ lines, lines.length = pre.length ∧ Took a a.publishMetrics.1 lines := by
  obtain ⟨s, hs, hassembled⟩ := exists_assembled h hgroupable
  have hkeys := hassembled.names
  rw [hnames, List.map_append, List.map_cons, List.map_eq_append_iff] at hkeys
  obtain ⟨before, rest, hobjects, hbefore, hrest⟩ := hkeys
  obtain ⟨e, after, rfl, hkey, -⟩ := List.map_eq_cons_iff.1 hrest
  have hlength : before.length = pre.length := by
    rw [← @List.length_map _ _ before Prod.fst, hbefore, List.length_map]
  obtain ⟨base, hbase⟩ := StaticFields.exists_decode hreached.statics
  have hstatics := StaticFields.settled_decode hreached.statics
  rw [← hlength]
  -- the objects of `pre` have lines, and that of `name` has none
  refine publishMetrics_until a hs hsink hobjects (fun e he => ?_) fun line hline => ?_
  · obtain ⟨name', object, rfl, hget, hholds⟩ :=
      hassembled.exists_of_mem (hobjects ▸ List.mem_append_left _ he)
    have hname : name' ∈ pre := by
      have hmem := List.mem_map_of_mem (f := Prod.fst) he
      rw [hbefore, List.mem_map] at hmem
      obtain ⟨t, ht, heq⟩ := hmem
      cases heq
      exact ht
    refine exists_line_of_short hstatics hbase ((formed_objects hs h).get? hget) hholds
      fun p n hsurvives => ?_
    obtain ⟨m, hm, rfl, -, rfl⟩ := hsurvives.exists_metric
    exact hpre m hm hname
  · obtain ⟨name', object, rfl, hget, hholds⟩ :=
      hassembled.exists_of_mem (hobjects ▸ List.mem_append_right _ List.mem_cons_self)
    cases hkey
    have hshort := short_of_line hstatics ((formed_objects hs h).get? hget) hline
      (hholds.survives_iff.2 hsurvives)
    rw [hlong] at hshort
    cases hshort

theorem mem_objectNames_iff (h : a.systemStats = .ok stats) {name : String} :
    name ∈ objectNames (a.metrics stats) ↔ ∃ p ∈ a.paths, objectOf p = name := by
  simp only [objectNames, List.mem_eraseDups, List.mem_map, ← mem_paths_metrics h, Table.paths,
    exists_exists_and_eq_and]

theorem emitted_of_lines (hs : a.assemble = (s, none)) (hassembled : Assembled (a.metrics stats) s)
    (hsink : ∀ i, a.sink.writeFault i = none) (hline : ∀ e ∈ s.objects, ∃ line,
      documentLine a.statics (timestamp a.clock.second) e.2 = .ok line) :
    ∃ lines, Emitted a lines ∧ lines.map Prod.fst = objectNames (a.metrics stats) := by
  have hbuild := (a.buildSnapshot_cases.2.2 s.objects).2 ⟨s, hs, rfl⟩
  obtain ⟨lines, hout, -, hnames, hall⟩ := lines_written hs hassembled hsink hline
  refine ⟨lines, ⟨hout, hnames ▸ Snapshot.nodup_objectNames _, fun e he => ?_⟩, hnames⟩
  obtain ⟨object, hget, -, hline⟩ := hall e he
  exact ⟨s.objects, .mapping object, hbuild, hget, hline⟩

theorem exists_emitted (hsink : ∀ i, a.sink.writeFault i = none)
    (hpass : a.publishMetrics.2 = none) (h : a.systemStats = .ok stats) :
    ∃ lines, Emitted a lines ∧ lines.map Prod.fst = objectNames (a.metrics stats) := by
  obtain ⟨⟨s, hs, hlines⟩, -⟩ := (publishMetrics_eq_none_iff a hsink).1 hpass
  exact emitted_of_lines hs (assembled_of_assemble hs h) hsink hlines

theorem exists_emitted_some (a : Aggregator) : ∃ lines, Emitted a lines := by
  rcases publishMetrics_some a with htook | ⟨s, taken, hs, hsub, hlines, htook⟩
  · exact ⟨[], htook.out, List.nodup_nil, by simp⟩
  · obtain ⟨stats, -, hassembled⟩ := exists_stats hs
    obtain ⟨lines, hsnd, hnames, hall⟩ := exists_lines hassembled hsub
    refine ⟨lines, by rw [htook.out, hsnd], hnames.nodup (Snapshot.nodup_objectNames _),
      fun e he => ?_⟩
    obtain ⟨object, hmem, hget, -⟩ := hall e he
    exact ⟨s.objects, .mapping object, (a.buildSnapshot_cases.2.2 _).2 ⟨s, hs, rfl⟩, hget,
      hlines _ hmem⟩

section
variable {lines : List (String × String)} (hlines : Emitted a lines)
include hlines

theorem Emitted.exists_object {e : String × String} (he : e ∈ lines) :
    ∃ s stats object, a.assemble = (s, none) ∧ a.systemStats = .ok stats ∧
      Assembled (a.metrics stats) s ∧ e.1 ∈ objectNames (a.metrics stats) ∧
      Fields.get? s.objects (.text e.1) = some (.mapping object) ∧
      Holds (writesTo e.1 (a.metrics stats)) object ∧
      documentLine a.statics (timestamp a.clock.second) (.mapping object) = .ok e.2 := by
  obtain ⟨objects, v, hbuild, hget, hline⟩ := hlines.line e he
  obtain ⟨s, hs, rfl⟩ := (a.buildSnapshot_cases.2.2 objects).1 hbuild
  obtain ⟨stats, hstats, hassembled⟩ := exists_stats hs
  have hname : e.1 ∈ objectNames (a.metrics stats) := by
    by_contra hnot
    rw [hassembled.get?_eq_none hnot] at hget
    cases hget
  obtain ⟨object, hget', hholds⟩ := hassembled.object _ hname
  cases hget.symm.trans hget'
  exact ⟨s, stats, object, hs, hstats, hassembled, hname, hget, hholds, hline⟩

theorem Emitted.eq_nil_of_error {e : Failure} (h : a.systemStats = .error e) : lines = [] := by
  refine List.eq_nil_iff_forall_not_mem.2 fun l hl => ?_
  obtain ⟨s, stats, object, -, hstats, -⟩ := hlines.exists_object hl
  cases h.symm.trans hstats

theorem Emitted.mem_objectNames (h : a.systemStats = .ok stats) {name : String}
    (hname : name ∈ lines.map Prod.fst) : name ∈ objectNames (a.metrics stats) := by
  obtain ⟨e, he, rfl⟩ := List.mem_map.1 hname
  obtain ⟨s, _, object, -, h', -, hmem, -⟩ := hlines.exists_object he
  cases h.symm.trans h'
  exact hmem

end

end

end MetricDocs.Aggregator
