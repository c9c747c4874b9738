/-
  The order in which metrics were created.

  Objects are assembled in the order of first use, and a place that is in conflict with another is
  refused or replaced by order.  What survives does not see it, if no two paths share a place, and
  neither does the text of a document:

  * `Rearranged fields fields' a b`: two runs over static fields and metrics that are the same up to
    their order, no two of which share a place;
  * `Rearranged.survives_iff`: the same metrics survive at the same places;
  * `Rearranged.documentLine_eq`: so an object has the same line in both passes, if no two static
    keys have the same text;
  * `lines_rearranged`: and both passes write the same lines, if no object shows a number that is
    too long to be written;
  * `order_matters`: what is written before such a number, and what is read of two static keys with
    the same text, does depend on the order.
-/
import MetricDocs.Proofs.Aggregator.Emission
import MetricDocs.Proofs.Json.Canonical

namespace MetricDocs.Aggregator

open Snapshot (objectOf placeOf objectNames writesTo lastAt Obstructed Survives Assembled Holds)

/-- Two aggregators with the same clocks over sinks that take everything; their static fields and
    the entries of their tables are the same up to order, all paths can be grouped, and no two share
    object and field. -/
structure Rearranged (fields fields' : Fields) (a b : Aggregator) : Prop where
  reached : Reached (.mapping fields) a
  reached' : Reached (.mapping fields') b
  statics : (Value.mapping fields).Reordered (.mapping fields')
  clock : b.clock = a.clock
  started : b.started = a.started
  table : ∀ kind, (a.store.table kind).Perm (b.store.table kind)
  sink : ∀ i, a.sink.writeFault i = none
  sink' : ∀ i, b.sink.writeFault i = none
  groupable : ∀ p ∈ a.paths, Path.Groupable p
  apart : ∀ p ∈ a.paths, ∀ q ∈ a.paths, Path.keyOf p = Path.keyOf q → p = q

/-- No two keys of a mapping inside are read back from the same text. -/
def KeysApart (fields : Fields) : Prop :=
  ∀ inner, (Value.mapping fields).Contains (.mapping inner) →
    (inner.map fun e => Json.rereadKey e.1).Nodup

section
variable {fields fields' : Fields} {a b : Aggregator} (h : Rearranged fields fields' a b)
include h

/-! ## What survives -/

theorem Rearranged.systemStats_eq : b.systemStats = a.systemStats := by
  rw [systemStats, systemStats, h.clock, h.started]

theorem Rearranged.mem_paths {p : String} : p ∈ b.paths ↔ p ∈ a.paths := by
  have hpaths : ∀ kind, p ∈ (b.store.table kind).paths ↔ p ∈ (a.store.table kind).paths :=
    fun kind => ((h.table kind).map Prod.fst).symm.mem_iff
  simp only [paths, List.mem_append]
  exact or_congr_left (or_congr (or_congr (hpaths .counter) (hpaths .gauge)) (hpaths .timer))

theorem Rearranged.current_eq (stats : Table) (p : String) :
    b.current stats p = a.current stats p := by
  have hget : ∀ kind, Table.get? (b.store.table kind) p = Table.get? (a.store.table kind) p :=
    fun kind => (Table.get?_perm (h.table kind) (h.reached.distinct kind) p).symm
  rw [current, current, show b.store.timers = b.store.table .timer from rfl, hget .timer,
    show b.store.gauges = b.store.table .gauge from rfl, hget .gauge,
    show b.store.counters = b.store.table .counter from rfl, hget .counter]
  rfl

section
variable {stats : Table} (hstats : a.systemStats = .ok stats) {name : String}
include hstats

theorem Rearranged.mem_objectNames :
    name ∈ objectNames (b.metrics stats) ↔ name ∈ objectNames (a.metrics stats) := by
  rw [mem_objectNames_iff hstats, mem_objectNames_iff (h.systemStats_eq.trans hstats)]
  simp only [h.mem_paths]

theorem Rearranged.lastAt_eq (p : List String) :
    lastAt (writesTo name (b.metrics stats)) p = lastAt (writesTo name (a.metrics stats)) p := by
  have hstats' : b.systemStats = .ok stats := h.systemStats_eq.trans hstats
  by_cases hpath : ∃ q ∈ a.paths, objectOf q = name ∧ placeOf q = p
  · -- one path goes there, and its value counts
    obtain ⟨q, hq, rfl, rfl⟩ := hpath
    obtain ⟨n, hn⟩ := exists_current h.reached.distinct hstats hq
    rw [lastAt_of_current h.reached.distinct hstats (fun q' hq' => h.apart q' hq' q hq) hn,
      lastAt_of_current h.reached'.distinct hstats'
        (fun q' hq' => h.apart q' (h.mem_paths.1 hq') q hq) ((h.current_eq stats q).trans hn)]
  · rw [Snapshot.lastAt_writesTo_of_ne, Snapshot.lastAt_writesTo_of_ne]
    · intro m hm hname hplace
      exact hpath ⟨m.1, mem_paths_of_mem hstats hm, hname, hplace⟩
    · intro m hm hname hplace
      have hmem := mem_paths_of_mem hstats' hm
      exact hpath ⟨m.1, h.mem_paths.1 hmem, hname, hplace⟩

/-- **The same metrics survive.** -/
theorem Rearranged.survives_iff {p : List String} {v : Value} :
    Survives (writesTo name (b.metrics stats)) p v ↔
      Survives (writesTo name (a.metrics stats)) p v := by
  have hpaths : ∀ q, q ∈ (b.metrics stats).paths ↔ q ∈ (a.metrics stats).paths := fun q => by
    rw [mem_paths_metrics hstats, mem_paths_metrics (h.systemStats_eq.trans hstats), h.mem_paths]
  rw [Survives, Survives, h.lastAt_eq hstats]
  refine and_congr_right fun _ => not_congr ⟨fun hob => ?_, fun hob => ?_⟩
  · exact Snapshot.obstructed_of_paths (fun q hq => (hpaths q).1 hq) hob
  · exact Snapshot.obstructed_of_paths (fun q hq => (hpaths q).2 hq) hob

theorem Rearranged.reordered_object {L : Value → Prop} {object object' : Fields}
    (hholds : Holds (writesTo name (a.metrics stats)) object)
    (hholds' : Holds (writesTo name (b.metrics stats)) object')
    (hformed : (Value.mapping object).Formed Json.SettledKey L)
    (hformed' : (Value.mapping object').Formed Json.SettledKey L) :
    (Value.mapping object).Reordered (.mapping object') := by
  refine Value.reordered_of_leaf_iff Json.SettledKey.isText hformed hformed' ?_ ?_ fun ks x => ?_
  · intro ks inner hat
    obtain ⟨ls, x, -, hx⟩ := hholds.leads_to_leaf hat
    exact ⟨ls, x, hx⟩
  · intro ks inner hat
    obtain ⟨ls, x, -, hx⟩ := hholds'.leads_to_leaf hat
    exact ⟨ls, x, hx⟩
  · rw [hholds.leaf_iff, hholds'.leaf_iff]
    simp only [h.survives_iff hstats]

end

/-! ## Documents -/

theorem Rearranged.reordered_statics (hkeys : KeysApart fields) :
    (StaticFields.decode a.statics).Reordered (StaticFields.decode b.statics) := by
  obtain ⟨text, htext, -⟩ := StaticFields.encode_eq_ok h.reached.statics
  rw [StaticFields.decode_eq h.reached.statics, StaticFields.decode_eq h.reached'.statics]
  exact Json.reread_reordered rfl htext hkeys h.statics

/-- **Objects of the same name have the same line.** -/
theorem Rearranged.documentLine_eq (hkeys : KeysApart fields) {stats : Table}
    (hstats : a.systemStats = .ok stats) {s t : Snapshot} (hs : a.assemble = (s, none))
    (ht : b.assemble = (t, none)) {name : String} {object object' : Fields}
    (hget : Fields.get? s.objects (.text name) = some (.mapping object))
    (hget' : Fields.get? t.objects (.text name) = some (.mapping object'))
    (hholds : Holds (writesTo name (a.metrics stats)) object)
    (hholds' : Holds (writesTo name (b.metrics stats)) object') :
    documentLine b.statics (timestamp b.clock.second) (.mapping object') =
      documentLine a.statics (timestamp a.clock.second) (.mapping object) := by
  have hbases := h.reordered_statics hkeys
  have hsettled := StaticFields.settled_decode h.reached.statics
  have hsettled' := StaticFields.settled_decode h.reached'.statics
  obtain ⟨base, hbase⟩ := StaticFields.exists_decode h.reached.statics
  obtain ⟨base', hbase'⟩ := StaticFields.exists_decode h.reached'.statics
  rw [hbase, hbase'] at hbases
  rw [hbase] at hsettled
  rw [hbase'] at hsettled'
  -- what both documents are made of holds no tuples
  have hbase_formed := hsettled.mono (fun _ => id) fun v hv => hv.2
  have hbase_formed' := hsettled'.mono (fun _ => id) fun v hv => hv.2
  have hobject := (formed_objects hs hstats).get? hget
  have hobject' := (formed_objects ht (h.systemStats_eq.trans hstats)).get? hget'
  have htext : ∀ s : String, ∀ vs, Value.text s ≠ .tuple vs := fun s vs heq => by cases heq
  have htime := Json.settledKey_text "@timestamp"
  have hobjects := h.reordered_object hstats hholds hholds' hobject hobject'
  have hdocuments : (document base (timestamp a.clock.second) object).Reordered
      (document base' (timestamp a.clock.second) object') :=
    Value.Reordered.merge Json.SettledKey.isText
      (hbase_formed.put Json.SettledKey.isText htime (htext _))
      (hbase_formed'.put Json.SettledKey.isText htime (htext _)) hobject hobject'
      (Value.Reordered.put Json.SettledKey.isText hbase_formed hbase_formed' htime (htext _)
        (htext _) hbases (.refl _)) hobjects
  rw [h.clock, documentLine_mapping hbase, documentLine_mapping hbase',
    Json.encode_reordered rfl (fun vs hvs => hvs vs rfl)
      (formed_document Json.SettledKey.isText Json.settledKey_text htext hbase_formed hobject)
      (formed_document Json.SettledKey.isText Json.settledKey_text htext hbase_formed' hobject')
      hdocuments]

theorem Rearranged.eq_of_emitted (hkeys : KeysApart fields) {lines lines' : List (String × String)}
    (hlines : Emitted a lines) (hlines' : Emitted b lines') {e e' : String × String}
    (he : e ∈ lines) (he' : e' ∈ lines') (hname : e.1 = e'.1) : e = e' := by
  obtain ⟨s, stats, object, hs, hstats, -, -, hget, hholds, hline⟩ := hlines.exists_object he
  obtain ⟨t, _, object', ht, hstats', -, -, hget', hholds', hline'⟩ := hlines'.exists_object he'
  cases (h.systemStats_eq.trans hstats).symm.trans hstats'
  rw [← hname] at hget' hholds'
  rw [h.documentLine_eq hkeys hstats hs ht hget hget' hholds hholds', hline] at hline'
  exact Prod.ext hname (Except.ok.inj hline')

theorem Rearranged.exists_emitted (hkeys : KeysApart fields)
    (hlong : ∀ p ∈ a.paths, ¬ a.ShowsLong p) {stats : Table} (hstats : a.systemStats = .ok stats) :
    ∃ lines lines', Emitted a lines ∧ Emitted b lines' ∧
      lines.map Prod.fst = objectNames (a.metrics stats) ∧
      lines'.map Prod.fst = objectNames (b.metrics stats) := by
  have hstats' : b.systemStats = .ok stats := h.systemStats_eq.trans hstats
  obtain ⟨s, hs, hassembled⟩ := exists_assembled hstats h.groupable
  obtain ⟨t, ht, hassembled'⟩ := exists_assembled hstats' fun p hp =>
    h.groupable p (h.mem_paths.1 hp)
  obtain ⟨lines, hlines, hnames⟩ := emitted_of_lines hs hassembled h.sink fun e he =>
    exists_line_of_not_showsLong h.reached hs hstats hassembled hlong he
  obtain ⟨lines', hlines', hnames'⟩ := emitted_of_lines ht hassembled' h.sink' fun e he => by
    -- the object of the same name has a line, and it is the same one
    obtain ⟨name, object', rfl, hget', hholds'⟩ := hassembled'.exists_of_mem he
    have hname : name ∈ objectNames (a.metrics stats) := by
      by_contra hnot
      rw [hassembled'.get?_eq_none (mt (h.mem_objectNames hstats).1 hnot)] at hget'
      cases hget'
    obtain ⟨object, hget, hholds⟩ := hassembled.object name hname
    obtain ⟨line, hline⟩ := exists_line_of_not_showsLong h.reached hs hstats hassembled hlong
      (mem_objects hs hstats hget)
    exact ⟨line, (h.documentLine_eq hkeys hstats hs ht hget hget' hholds hholds').trans hline⟩
  exact ⟨lines, lines', hlines, hlines', hnames, hnames'⟩

theorem Rearranged.perm_of_emitted (hkeys : KeysApart fields)
    {lines lines' : List (String × String)} (hlines : Emitted a lines) (hlines' : Emitted b lines')
    (hnames : ∀ name, name ∈ lines.map Prod.fst ↔ name ∈ lines'.map Prod.fst) :
    lines.Perm lines' := by
  rw [List.perm_ext_iff_of_nodup (hlines.nodup.of_map _) (hlines'.nodup.of_map _)]
  intro e
  constructor
  · intro he
    obtain ⟨e', he', hname⟩ := List.mem_map.1 ((hnames _).1 (List.mem_map_of_mem he))
    rwa [h.eq_of_emitted hkeys hlines hlines' he he' hname.symm]
  · intro he'
    obtain ⟨e', he, hname⟩ := List.mem_map.1 ((hnames _).2 (List.mem_map_of_mem he'))
    rwa [← h.eq_of_emitted hkeys hlines hlines' he he' hname]

/-- **Passes over objects that show no long number** write the same lines. -/
theorem Rearranged.perm_emitted (hkeys : KeysApart fields)
    (hlong : ∀ p ∈ a.paths, ¬ a.ShowsLong p) :
    ∃ lines lines', Emitted a lines ∧ Emitted b lines' ∧ lines.Perm lines' := by
  cases hstats : a.systemStats with
  | error e =>
    obtain ⟨lines, hlines⟩ := exists_emitted_some a
    obtain ⟨lines', hlines'⟩ := exists_emitted_some b
    have hnil := hlines.eq_nil_of_error hstats
    have hnil' := hlines'.eq_nil_of_error (h.systemStats_eq.trans hstats)
    exact ⟨lines, lines', hlines, hlines', by rw [hnil, hnil']⟩
  | ok stats =>
    obtain ⟨lines, lines', hlines, hlines', hnames, hnames'⟩ := h.exists_emitted hkeys hlong hstats
    refine ⟨lines, lines', hlines, hlines', h.perm_of_emitted hkeys hlines hlines' fun name => ?_⟩
    rw [hnames, hnames', h.mem_objectNames hstats]

/-- **The order of creation does not matter.**  Where no two keys of the static fields have the same
    text, both passes write the same line for an object, as far as they write one; and if no object
    shows a number that is too long to be written, they write the same lines. -/
theorem lines_rearranged (hkeys : KeysApart fields) :
    ∃ lines lines', Emitted a lines ∧ Emitted b lines' ∧
      (∀ e ∈ lines, ∀ e' ∈ lines', e.1 = e'.1 → e = e') ∧
      ((∀ p ∈ a.paths, ¬ a.ShowsLong p) → lines.Perm lines') := by
  by_cases hlong : ∀ p ∈ a.paths, ¬ a.ShowsLong p
  · obtain ⟨lines, lines', hlines, hlines', hperm⟩ := h.perm_emitted hkeys hlong
    exact ⟨lines, lines', hlines, hlines',
      fun e he e' he' => h.eq_of_emitted hkeys hlines hlines' he he', fun _ => hperm⟩
  · obtain ⟨lines, hlines⟩ := exists_emitted_some a
    obtain ⟨lines', hlines'⟩ := exists_emitted_some b
    exact ⟨lines, lines', hlines, hlines',
      fun e he e' he' => h.eq_of_emitted hkeys hlines hlines' he he', fun h => absurd h hlong⟩

end

/-! ## Two orders -/

/-- Static fields, and metrics of which one is below another's place. -/
def labels : Fields :=
  [(.text "service", .text "s"), (.text "t", .mapping [(.text "x", .null), (.text "y", .text "z")])]

def labelsTurned : Fields :=
  [(.text "t", .mapping [(.text "y", .text "z"), (.text "x", .null)]), (.text "service", .text "s")]

def conflicting : List Command :=
  [.store (.update ⟨.counter, "a.1.b.c", []⟩ .add (.int 6)),
    .store (.update ⟨.counter, "a.1.b", []⟩ .add (.int 5)),
    .store (.update ⟨.gauge, "a.1.b", []⟩ .replace (.int 7))]

theorem rearranged_conflicting : Rearranged labels labelsTurned
    (built labels conflicting) (built labelsTurned conflicting.reverse) where
  reached := reached_built rfl _
  reached' := reached_built rfl _
  statics := by
    rw [labels, labelsTurned, Value.Reordered]
    refine ⟨_, _, rfl, List.Perm.swap _ _ _, ?_⟩
    simp [Value.ReorderedFields, Value.Reordered, List.Perm.swap]
  clock := rfl
  started := rfl
  table kind := by
    cases kind with
    | counter => exact List.Perm.swap _ _ _
    | gauge => exact .refl _
    | timer => exact .refl _
  sink _ := rfl
  sink' _ := rfl
  groupable := by decide
  apart := by decide

theorem keysApart_labels : KeysApart labels := by
  intro inner h
  cases h with
  | self => simp [labels, Json.rereadKey, Json.keyText]
  | entry he h =>
    simp only [labels, List.mem_cons, List.not_mem_nil, or_false] at he
    rcases he with rfl | rfl
    · cases h
    · cases h with
      | self => simp [Json.rereadKey, Json.keyText]
      | entry he h =>
        simp only [List.mem_cons, List.not_mem_nil, or_false] at he
        rcases he with rfl | rfl <;> cases h

/-- In either order of such metrics the lines are the same. -/
theorem conflicting_rearranged : ∃ (a b : Aggregator) (lines lines' : List (String × String)),
    Rearranged labels labelsTurned a b ∧ KeysApart labels ∧ (∀ p ∈ a.paths, ¬ a.ShowsLong p) ∧
      Emitted a lines ∧ Emitted b lines' ∧ lines.Perm lines' := by
  have hlong : ∀ p ∈ (built labels conflicting).paths, ¬ ShowsLong _ p := fun p =>
    not_showsLong_of_short (systemStats_start rfl rfl) fun m hm =>
      Decimal.tooLong_eq_false_of_lt (by revert m; decide)
  obtain ⟨lines, lines', hlines, hlines', -, hperm⟩ :=
    lines_rearranged rearranged_conflicting keysApart_labels
  exact ⟨_, _, lines, lines', rearranged_conflicting, keysApart_labels, hlong, hlines, hlines',
    hperm hlong⟩

/-! ## What order decides -/

/-- Both passes write the same lines, in some order. -/
def SameLines (a b : Aggregator) : Prop :=
  ∃ lines lines', a.publishMetrics.1.out = a.out ++ lines ∧
    b.publishMetrics.1.out = b.out ++ lines' ∧ lines.Perm lines'

/-- Two counters, the first of any value. -/
def counting (n : Int) : List Command :=
  [.store (.update ⟨.counter, "a.1.x", []⟩ .add (.int n)),
    .store (.update ⟨.counter, "b.1.y", []⟩ .add (.int 1))]

theorem rearranged_counting (n : Int) :
    Rearranged StaticFields.default StaticFields.default (after (counting n))
      (after (counting n).reverse) where
  reached := reached_after _
  reached' := reached_after _
  statics := .refl _
  clock := rfl
  started := rfl
  table kind := by
    cases kind with
    | counter => exact List.Perm.swap _ _ _
    | gauge => exact .refl _
    | timer => exact .refl _
  sink _ := rfl
  sink' _ := rfl
  groupable := by
    show ∀ p ∈ ["a.1.x", "b.1.y", "system.uptime", "system.goroutines"], Path.Groupable p
    decide
  apart := by
    show ∀ p ∈ ["a.1.x", "b.1.y", "system.uptime", "system.goroutines"],
      ∀ q ∈ ["a.1.x", "b.1.y", "system.uptime", "system.goroutines"],
        Path.keyOf p = Path.keyOf q → p = q
    decide

theorem survives_counting (n : Int) : Survives (writesTo (objectOf "a.1.x")
    ((after (counting n)).metrics startStats)) (placeOf "a.1.x") (.int n) := by
  have h := rearranged_counting n
  refine ⟨lastAt_of_current h.reached.distinct (systemStats_start rfl rfl)
    (fun p hp => h.apart p hp _ List.mem_cons_self) ?_, fun hob => ?_⟩
  · show some (0 + n) = some n
    rw [zero_add]
  · have hob := @Snapshot.obstructed_of_paths _ _ _ [("a.1.x", 0), ("b.1.y", 0),
      ("system.uptime", 0), ("system.goroutines", 0)] (by intro p hp; exact hp) hob
    exact absurd hob (by decide)

theorem not_sameLines_long {n : Int} (hlong : Decimal.tooLong n = true) :
    ¬ SameLines (after (counting n)) (after (counting n).reverse) := by
  have h := rearranged_counting n
  have hstats : (after (counting n)).systemStats = .ok startStats := systemStats_start rfl rfl
  have hstats' := h.systemStats_eq.trans hstats
  have hnames : objectNames ((after (counting n)).metrics startStats) =
      [] ++ objectOf "a.1.x" :: ["b.1", "system"] := by
    show (["a.1.x", "b.1.y", "system.uptime", "system.goroutines"].map objectOf).eraseDups = _
    decide
  have hnames' : objectNames ((after (counting n).reverse).metrics startStats) =
      ["b.1"] ++ objectOf "a.1.x" :: ["system"] := by
    show (["b.1.y", "a.1.x", "system.uptime", "system.goroutines"].map objectOf).eraseDups = _
    decide
  have hshort : ∀ m ∈ (after (counting n).reverse).metrics startStats, objectOf m.1 ∈ ["b.1"] →
      Decimal.tooLong m.2 = false := by
    show ∀ m ∈ [("b.1.y", 1), ("a.1.x", 0 + n), ("system.uptime", 0), ("system.goroutines", 1)], _
    simp only [List.forall_mem_cons, List.not_mem_nil, false_implies, implies_true, and_true]
    have hsmall : ∀ k ∈ [(0 : ℤ), 1], Decimal.tooLong k = false := fun k hk =>
      Decimal.tooLong_eq_false_of_lt (by revert k; decide)
    refine ⟨fun _ => hsmall 1 (by simp), fun hobject => ?_, fun _ => hsmall 0 (by simp),
      fun _ => hsmall 1 (by simp)⟩
    exact absurd hobject (by decide)
  obtain ⟨first, hfirst, htook⟩ := took_until_long h.reached h.sink hstats h.groupable hnames
    (by simp) (survives_counting n) hlong
  obtain ⟨second, hsecond, htook'⟩ := took_until_long h.reached' h.sink' hstats'
    (fun p hp => h.groupable p (h.mem_paths.1 hp)) hnames' hshort
    ((h.survives_iff hstats).2 (survives_counting n)) hlong
  -- no line against one
  rintro ⟨lines, lines', hout, hout', hperm⟩
  have hlength := hperm.length_eq
  rw [List.append_cancel_left (hout.symm.trans htook.out),
    List.append_cancel_left (hout'.symm.trans htook'.out), hfirst, hsecond] at hlength
  cases hlength

theorem exists_system_line {fields : Fields} {statics : String}
    (h : StaticFields.encode (.mapping fields) = .ok statics) {base : Fields}
    (hbase : StaticFields.decode (built fields []).statics = .mapping base) :
    ∃ line doc, (built fields []).publishMetrics.1.out = [line] ∧ Json.decode? line = some doc ∧
      ∀ ks, doc.at? (.text "t" :: ks) =
        ((Value.mapping base).at? (.text "t" :: ks)).map (Json.reread .compact) := by
  have hstats : (built fields []).systemStats = .ok startStats := systemStats_start rfl rfl
  have hms : (built fields []).metrics startStats = startStats := rfl
  obtain ⟨s, lines, hs, hout, -, hnames, hall⟩ := documents_written (reached_built h [])
    (fun _ => rfl) hstats
    (by
      rw [hms]
      exact fun m hm => Decimal.tooLong_eq_false_of_lt (by revert m; decide))
    (by
      rw [hms]
      decide)
  rw [hms, show objectNames startStats = ["system"] by decide,
    List.map_eq_singleton_iff] at hnames
  obtain ⟨e, rfl, hname⟩ := hnames
  obtain ⟨base', object, -, -, hwritten⟩ := hall e (List.mem_singleton_self e)
  cases hbase.symm.trans hwritten.statics
  have hnone : Fields.get? object (.text "t") = none := by
    refine hwritten.holds.get?_eq_none (by decide) (by decide) ?_
    rw [hms, hname]
    decide
  refine ⟨e.2, _, hout, hwritten.read, fun ks => ?_⟩
  rw [Json.at?_reread hwritten.formed, at?_document_of_none Json.SettledKey.isText
    hwritten.formed_object (by simp) hnone]

/-- Static fields in which two keys have the same text. -/
def clashing : Fields := [(.text "t", .mapping [(.null, .text "x"), (.text "null", .text "y")])]

def clashingTurned : Fields :=
  [(.text "t", .mapping [(.text "null", .text "y"), (.null, .text "x")])]

theorem rearranged_clashing : Rearranged clashing clashingTurned (built clashing [])
    (built clashingTurned []) where
  reached := reached_built rfl _
  reached' := reached_built rfl _
  statics := by
    rw [clashing, clashingTurned, Value.Reordered]
    refine ⟨_, _, rfl, .refl _, ?_⟩
    simp [Value.ReorderedFields, Value.Reordered, List.Perm.swap]
  -- both sides at the start, or the texts of the static fields would be compared
  clock := (rfl : Clock.start = Clock.start)
  started := (rfl : Clock.start.mono = Clock.start.mono)
  table kind := (.refl _ : (Store.empty.table kind).Perm (Store.empty.table kind))
  sink _ := rfl
  sink' _ := rfl
  groupable := by decide
  apart := by decide

theorem not_sameLines_clashing :
    ¬ SameLines (built clashing []) (built clashingTurned []) := by
  have h := rearranged_clashing
  obtain ⟨line, doc, hline, hdoc, hat⟩ := @exists_system_line clashing _ rfl
    [(.text "t", .mapping [(.text "null", .text "y")])] (by
      rw [StaticFields.decode_eq h.reached.statics]
      rfl)
  obtain ⟨line', doc', hline', hdoc', hat'⟩ := @exists_system_line clashingTurned _ rfl
    [(.text "t", .mapping [(.text "null", .text "x")])] (by
      rw [StaticFields.decode_eq h.reached'.statics]
      rfl)
  rintro ⟨lines, lines', hout, hout', hperm⟩
  have hlines : [line] = lines := hline.symm.trans hout
  have hlines' : [line'] = lines' := hline'.symm.trans hout'
  rw [← hlines, ← hlines', List.perm_singleton] at hperm
  cases hperm
  cases hdoc.symm.trans hdoc'
  have heq : some (Value.text "y") = some (Value.text "x") :=
    (hat [.text "null"]).symm.trans (hat' [.text "null"])
  simp at heq

/-- **The order matters twice**: a number that is too long ends a pass at its object, and of two
    static keys with the same text the last is read. -/
theorem order_matters :
    (∃ a b, Rearranged StaticFields.default StaticFields.default a b ∧ ¬ SameLines a b) ∧
      ∃ fields fields' a b, Rearranged fields fields' a b ∧ ¬ SameLines a b := by
  have hlong : Decimal.tooLong (Nat.pow 10 Decimal.maxDigits : ℕ) = true :=
    decide_eq_true (Int.natAbs_natCast _).ge
  exact ⟨⟨_, _, rearranged_counting _, not_sameLines_long hlong⟩,
    ⟨_, _, _, _, rearranged_clashing, not_sameLines_clashing⟩⟩

end MetricDocs.Aggregator
