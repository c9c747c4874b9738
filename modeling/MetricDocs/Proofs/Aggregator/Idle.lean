/-
  A pass of an aggregator that has measured nothing.

  There is one object, that of the system, and so one line.

  * `systemObject` is that object, `assemble_of_empty`: it is all that an empty store leaves;
  * `ownPlaces` are the places that the object and the time take in a document, and `Apart ks` says that
    keys lead neither into one of them nor to one;
  * `SystemDocument statics time uptime threads doc`: the document has the system's own fields, and all
    that the static fields have apart from them;
  * `SystemLine statics time uptime threads line`: the line reads as such a document;
  * `publishMetrics_of_empty`: a pass writes one such line.
-/
import MetricDocs.Proofs.Aggregator.Documents
import MetricDocs.Proofs.Aggregator.SystemStats
import MetricDocs.Proofs.Json.Ascii

namespace MetricDocs.Aggregator

/-! ## The object of the system -/

/-- The object of the system where nothing else is measured. -/
def systemObject (uptime threads : ℤ) : Fields :=
  [(.text "metric", .text "system"), (.text "component", .text "system"),
    (.text "system", .mapping [(.text "uptime", .int uptime), (.text "goroutines", .int threads)])]

section
variable {a : Aggregator} {uptime threads : ℤ}

theorem group_uptime : Path.group "system.uptime" = .ok ⟨"system", "system.uptime"⟩ := by rfl

theorem group_goroutines : Path.group "system.goroutines" = .ok ⟨"system", "system.goroutines"⟩ := by
  rfl

theorem addAll_stats : Snapshot.empty.addAll
      (stream [("system.uptime", uptime), ("system.goroutines", threads)]) =
    (⟨[(.text "system", .mapping (systemObject uptime threads))], []⟩, none) := by
  have hhead : Path.head "system.uptime" = "system" := by rfl
  have huptime : Path.segments "system.uptime" = ["system", "uptime"] := by rfl
  have hthreads : Path.segments "system.goroutines" = ["system", "goroutines"] := by rfl
  simp [stream, Snapshot.addAll, Snapshot.add, group_uptime, group_goroutines, hhead, huptime,
    hthreads, Snapshot.objectFor, Snapshot.newObject, Snapshot.empty, Fields.get?, Fields.put,
    Key.same, Value.place, Fields.walk, systemObject]

/-- **An empty store leaves the object of the system.** -/
theorem assemble_of_empty (h : a.store = .empty)
    (hstats : a.systemStats = .ok [("system.uptime", uptime), ("system.goroutines", threads)]) :
    a.assemble = (⟨[(.text "system", .mapping (systemObject uptime threads))], []⟩, none) := by
  have hstore : Snapshot.empty.addStreams
      [stream Store.empty.counterSnapshot, stream Store.empty.timerSnapshot] = (.empty, none) := rfl
  rw [assemble, h]
  simp only [hstore, hstats]
  exact addAll_stats

theorem formed_systemObject {P : Key → Prop} {L : Value → Prop} (hP : ∀ s, P (.text s))
    (hL : ∀ s, L (.text s)) (huptime : L (.int uptime)) (hthreads : L (.int threads)) :
    (Value.mapping (systemObject uptime threads)).Formed P L := by
  simp [systemObject, Value.Formed, Value.FormedFields, hP, hL, huptime, hthreads]

/-! ## Its document -/

/-- The places of the system's own fields and of the time. -/
def ownPlaces : List (List String) :=
  [["metric"], ["component"], ["@timestamp"], ["system", "uptime"], ["system", "goroutines"]]

/-- The keys lead neither into a field of the system's own nor to one. -/
def Apart (ks : List Key) : Prop :=
  ∀ p ∈ ownPlaces, ¬ segmentKeys p <+: ks ∧ ¬ ks <+: segmentKeys p

/-- A document with the system's own fields, which has what static fields have apart from them. -/
structure SystemDocument (statics : Value) (time : String) (uptime threads : ℤ) (doc : Value) :
    Prop where
  metric : doc.at? [.text "metric"] = some (.text "system")
  component : doc.at? [.text "component"] = some (.text "system")
  time : doc.at? [.text "@timestamp"] = some (.text time)
  uptime : doc.at? [.text "system", .text "uptime"] = some (.int uptime)
  goroutines : doc.at? [.text "system", .text "goroutines"] = some (.int threads)
  statics : ∀ ks, Apart ks → doc.at? ks = (statics.at? ks).map (Json.reread .compact)

/-- A text is one line of printable characters that reads as a document of the system. -/
def SystemLine (statics : Value) (time : String) (uptime threads : ℤ) (line : String) : Prop :=
  ∃ text, line = String.ofList (text ++ ['\n']) ∧ Json.Printable text ∧
    ∃ doc, Json.decode? line = some doc ∧ SystemDocument statics time uptime threads doc

theorem at?_laidOn_of_none {P : Key → Prop} {L : Value → Prop} (hP : ∀ k, P k → k.IsText)
    {overlay : Fields} (h : (Value.mapping overlay).Formed P L) {k : Key}
    (hk : Fields.get? overlay k = none) (ks : List Key) (existing : Option Value) :
    ((Value.mapping overlay).laidOn existing).at? (k :: ks) = existing.bind (·.at? (k :: ks)) := by
  have hnone : (Value.mapping overlay).at? (k :: ks) = none := by
    rw [Value.at?_mapping_cons, hk, Option.bind_none]
  -- the mapping itself is no leaf, and what is on the way below it starts at the key
  refine Value.at?_laidOn_of_absent (h.throughout_distinct hP) hnone fun p w hp _ hw => ?_
  rcases p with _ | ⟨l, p⟩
  · cases (Value.leaf_nil_iff.1 hw).1
    cases hw.2
  · obtain ⟨rfl, -⟩ := List.cons_prefix_cons.1 hp
    obtain ⟨u, hu, -⟩ := Value.leaf_cons_iff.1 hw
    rw [hk] at hu
    cases hu

theorem get?_systemObject_of_ne {k : Key} (hmetric : k ≠ .text "metric")
    (hcomponent : k ≠ .text "component") (hsystem : k ≠ .text "system") :
    Fields.get? (systemObject uptime threads) k = none := by
  rw [systemObject, Fields.get?_cons_of_ne (Key.isText_text _) hmetric,
    Fields.get?_cons_of_ne (Key.isText_text _) hcomponent,
    Fields.get?_cons_of_ne (Key.isText_text _) hsystem]
  rfl

/-- **Apart from the system's own fields** a document is its static fields. -/
theorem at?_document_of_apart {base : Fields} {time : String} {ks : List Key} (h : Apart ks) :
    (document base time (systemObject uptime threads)).at? ks = (Value.mapping base).at? ks := by
  have hformed : (Value.mapping (systemObject uptime threads)).Formed Key.IsText fun _ => True :=
    formed_systemObject Key.isText_text (fun _ => trivial) trivial trivial
  rcases ks with _ | ⟨k, ks⟩
  · exact absurd List.nil_prefix (h ["metric"] (by decide)).2
  have hne : ∀ s, [s] ∈ ownPlaces → k ≠ .text s := by
    rintro s hs rfl
    exact (h [s] hs).1 ⟨ks, rfl⟩
  have htime := hne "@timestamp" (by decide)
  -- only below `system` are there two mappings to be merged
  by_cases hsystem : k = .text "system"
  · subst hsystem
    rcases ks with _ | ⟨l, ks⟩
    · exact absurd ⟨[.text "uptime"], rfl⟩ (h ["system", "uptime"] (by decide)).2
    have hne : ∀ s, ["system", s] ∈ ownPlaces → l ≠ .text s := by
      rintro s hs rfl
      exact (h ["system", s] hs).1 ⟨ks, rfl⟩
    have hown : Fields.get? (systemObject uptime threads) (.text "system") = some (.mapping
        [(.text "uptime", .int uptime), (.text "goroutines", .int threads)]) := rfl
    have hl : Fields.get? [(.text "uptime", .int uptime), (.text "goroutines", .int threads)] l =
        (none : Option Value) := by
      rw [Fields.get?_cons_of_ne (Key.isText_text _) (hne "uptime" (by decide)),
        Fields.get?_cons_of_ne (Key.isText_text _) (hne "goroutines" (by decide))]
      rfl
    rw [document, Value.at?_mapping_cons, Fields.get?_merge_of_formed (fun _ => id) hformed, hown,
      Fields.get?_put_of_ne (Key.isText_text _) htime, Option.bind_some,
      at?_laidOn_of_none (fun _ => id) (hformed.get? hown) hl, ← Value.at?_mapping_cons]
  · exact at?_document_of_none (fun _ => id) hformed htime
      (get?_systemObject_of_ne (hne "metric" (by decide)) (hne "component" (by decide)) hsystem) ks

/-- **What is read of the document of the system**: its own fields, and otherwise the static fields. -/
theorem systemDocument_reread {L : Value → Prop} {base : Fields} {time : String}
    (hbase : (Value.mapping base).Formed Json.SettledKey L) (htext : ∀ s, L (.text s))
    (huptime : L (.int uptime)) (hthreads : L (.int threads)) :
    SystemDocument (.mapping base) time uptime threads
      (Json.reread .compact (document base time (systemObject uptime threads))) := by
  have hobject := @formed_systemObject uptime threads _ _ Json.settledKey_text htext huptime hthreads
  have hformed := @formed_document base (systemObject uptime threads) time _ _ Json.SettledKey.isText
    Json.settledKey_text htext hbase hobject
  have hleaf : ∀ {ks v}, (Value.mapping (systemObject uptime threads)).Leaf ks v →
      (document base time (systemObject uptime threads)).at? ks = some v := fun hv =>
    (document_leaf Json.SettledKey.isText hobject hv).1
  constructor
  · rw [Json.at?_reread hformed, hleaf ⟨rfl, rfl⟩]
    rfl
  · rw [Json.at?_reread hformed, hleaf ⟨rfl, rfl⟩]
    rfl
  · rw [Json.at?_reread hformed, at?_timestamp Json.SettledKey.isText hobject]
    rfl
  · rw [Json.at?_reread hformed, hleaf ⟨rfl, rfl⟩]
    rfl
  · rw [Json.at?_reread hformed, hleaf ⟨rfl, rfl⟩]
    rfl
  · intro ks hks
    rw [Json.at?_reread hformed, at?_document_of_apart hks]

end

/-! ## A pass -/

/-- **A pass of an aggregator that has measured nothing** writes one line to a sink that takes
    everything, and that reads as the document of the system. -/
theorem publishMetrics_of_empty {a : Aggregator} {fields : Fields} {uptime : ℤ}
    (hstatics : StaticFields.encode (.mapping fields) = .ok a.statics) (hstore : a.store = .empty)
    (hstats : a.systemStats = .ok [("system.uptime", uptime), ("system.goroutines", a.clock.threads)])
    (huptime : Decimal.tooLong uptime = false) (hthreads : Decimal.tooLong a.clock.threads = false)
    (hsink : ∀ i, a.sink.writeFault i = none) (hflush : ∀ i, a.sink.flushFault i = none) :
    ∃ line, a.publishMetrics.1.out = a.out ++ [line] ∧ a.publishMetrics.2 = none ∧
      SystemLine (Json.reread .spaced (.mapping fields)) (timestamp a.clock.second) uptime
        a.clock.threads line := by
  have hsettled := StaticFields.settled_decode hstatics
  have hobject : Json.Settled (.mapping (systemObject uptime a.clock.threads)) :=
    formed_systemObject Json.settledKey_text Json.plain_text (Json.plain_int huptime)
      (Json.plain_int hthreads)
  obtain ⟨base, hbase⟩ := StaticFields.exists_decode hstatics
  obtain ⟨line, hline⟩ := exists_documentLine (timestamp a.clock.second) hsettled hbase hobject
  obtain ⟨taken, htaken, hlines, htook, hnone⟩ := publishMetrics_all a
    (assemble_of_empty hstore hstats) hsink (List.forall_mem_singleton.2 ⟨line, hline⟩)
  obtain ⟨e, rfl⟩ : ∃ e, taken = [e] :=
    List.length_eq_one_iff.1 (by rw [← List.length_map Prod.fst, htaken, List.length_singleton])
  obtain ⟨object, line⟩ := e
  obtain rfl : object = _ := List.singleton_injective htaken
  obtain ⟨base', text, hbase', htext, rfl⟩ := documentLine_eq_ok
    (hlines _ (List.mem_singleton_self _))
  cases hbase.symm.trans hbase'
  rw [hbase] at hsettled
  have htuple : ∀ vs, ¬ Json.Plain (.tuple vs) := fun vs hvs => hvs.2 vs rfl
  have hformed := @formed_document base _ (timestamp a.clock.second) _ _ Json.SettledKey.isText
    Json.settledKey_text Json.plain_text hsettled hobject
  refine ⟨_, htook.out, hnone hflush, text, rfl, ?_, _, decode?_line htuple hformed htext, ?_⟩
  · exact Json.printable_encode (by simp [Json.Style.compact]) (by simp [Json.Style.compact])
      Json.SettledKey.isText htuple (fun _ => hformed) htext
  · rw [← StaticFields.decode_eq hstatics, hbase]
    exact systemDocument_reread hsettled Json.plain_text (Json.plain_int huptime)
      (Json.plain_int hthreads)

end MetricDocs.Aggregator
