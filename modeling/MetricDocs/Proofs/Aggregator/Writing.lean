/-
  What a pass hands to the sink.

  * `SameSource a b`: the store and the text of the static fields are the same;
  * `Took a b lines`: nothing but that the sink took these lines concerns later documents;
  * `writeAt_cases`: a document's line is taken, or nothing is;
  * `writeObjects_some` and `writeObjects_all`: a pass writes the lines of some of its objects in
    their order, and those of all of them to a sink that takes everything;
  * `publish_cases`: the flush behind it hands nothing over;
  * `publishMetrics_some` and `publishMetrics_all`: the same for a pass over the metrics and the
    objects of its snapshot;
  * `publishMetrics_eq_none_iff`: when such a pass comes through, and `publishMetrics_until`: how
    much of it is written otherwise.
-/
import Mathlib
import MetricDocs.Aggregator

namespace MetricDocs.Aggregator

/-- The store and the static fields are the same. -/
structure SameSource (a b : Aggregator) : Prop where
  store : b.store = a.store
  statics : b.statics = a.statics

theorem SameSource.refl (a : Aggregator) : SameSource a a := ⟨rfl, rfl⟩

theorem SameSource.trans {a b c : Aggregator} (h : SameSource a b) (h' : SameSource b c) :
    SameSource a c :=
  ⟨h'.store.trans h.store, h'.statics.trans h.statics⟩

/-- The sink took lines; what a document depends on is as before. -/
structure Took (a b : Aggregator) (lines : List String) : Prop extends SameSource a b where
  writeFault : b.sink.writeFault = a.sink.writeFault
  flushFault : b.sink.flushFault = a.sink.flushFault
  out : b.out = a.out ++ lines

section
variable {a b c : Aggregator} {lines lines' : List String}

theorem Took.refl (a : Aggregator) : Took a a [] :=
  ⟨.refl a, rfl, rfl, (List.append_nil _).symm⟩

theorem Took.trans (h : Took a b lines) (h' : Took b c lines') : Took a c (lines ++ lines') :=
  ⟨h.toSameSource.trans h'.toSameSource, h'.writeFault.trans h.writeFault,
    h'.flushFault.trans h.flushFault, by rw [h'.out, h.out, List.append_assoc]⟩

end

/-! ## One document -/

section
variable (a : Aggregator) (time : String) (object : Value)

theorem writeAt_eq : a.writeAt time object = match documentLine a.statics time object with
    | .error e => (a, some e)
    | .ok line => a.putLine object line :=
  (rfl)

/-- A line is taken unless the sink fails. -/
theorem putLine_cases (line : String) :
    (Took a (a.putLine object line).1 [line] ∧ (a.putLine object line).2 = none) ∨
      (Took a (a.putLine object line).1 [] ∧ ∃ f, a.sink.writeFault a.sink.writes = some f) := by
  unfold putLine
  simp only [Sink.write]
  cases a.sink.writeFault a.sink.writes with
  | none => exact Or.inl ⟨⟨⟨rfl, rfl⟩, rfl, rfl, rfl⟩, rfl⟩
  | some f =>
    refine Or.inr ⟨?_, f, rfl⟩
    simp only
    split_ifs <;> exact ⟨⟨rfl, rfl⟩, rfl, rfl, (List.append_nil _).symm⟩

/-- A document is written as one line, unless it has none or the sink fails. -/
theorem writeAt_cases :
    (∃ line, documentLine a.statics time object = .ok line ∧
      Took a (a.writeAt time object).1 [line] ∧ (a.writeAt time object).2 = none) ∨
    (Took a (a.writeAt time object).1 [] ∧
      ∀ line, documentLine a.statics time object = .ok line →
        ∃ f, a.sink.writeFault a.sink.writes = some f) := by
  rw [writeAt_eq]
  cases documentLine a.statics time object with
  | error e => exact Or.inr ⟨.refl a, fun line h => by cases h⟩
  | ok line =>
    rcases putLine_cases a object line with ⟨htook, hnone⟩ | ⟨htook, hfault⟩
    · exact Or.inl ⟨line, rfl, htook, hnone⟩
    · exact Or.inr ⟨htook, fun _ _ => hfault⟩

theorem exists_line_of_writeAt (h : (a.writeAt time object).2 = none) :
    ∃ line, documentLine a.statics time object = .ok line := by
  rw [writeAt_eq] at h
  cases hline : documentLine a.statics time object with
  | error e => rw [hline] at h; cases h
  | ok line => exact ⟨line, rfl⟩

theorem flushes_writeAt : (a.writeAt time object).1.sink.flushes = a.sink.flushes := by
  rw [writeAt_eq]
  cases documentLine a.statics time object with
  | error e => rfl
  | ok line =>
    simp only [putLine, Sink.write]
    cases a.sink.writeFault a.sink.writes with
    | none => rfl
    | some f =>
      simp only
      split_ifs <;> rfl

/-! ## Documents in order -/

theorem writeObjects_cons (objects : List Value) : a.writeObjects time (object :: objects) =
    match a.writeAt time object with
    | (b, none) => b.writeObjects time objects
    | (b, some e) => (b, some e) :=
  (rfl)

/-- **A pass writes the lines of some of its objects**, in their order. -/
theorem writeObjects_some (objects : Fields) :
    ∃ taken : List ((Key × Value) × String), (taken.map Prod.fst).Sublist objects ∧
      (∀ e ∈ taken, documentLine a.statics time e.1.2 = .ok e.2) ∧
      Took a (a.writeObjects time (objects.map Prod.snd)).1 (taken.map Prod.snd) := by
  induction objects generalizing a with
  | nil => exact ⟨[], List.nil_sublist _, by simp, .refl a⟩
  | cons object objects ih =>
    have hwrite := writeAt_cases a time object.2
    rw [List.map_cons, writeObjects_cons]
    rcases heq : a.writeAt time object.2 with ⟨b, _ | e⟩
    · obtain ⟨taken, hsub, hlines, htook⟩ := ih b
      rw [heq] at hwrite
      rcases hwrite with ⟨line, hline, hb, -⟩ | ⟨hb, -⟩
      · rw [hb.statics] at hlines
        exact ⟨(object, line) :: taken, hsub.cons_cons object,
          List.forall_mem_cons.2 ⟨hline, hlines⟩, hb.trans htook⟩
      · rw [hb.statics] at hlines
        exact ⟨taken, hsub.cons object, hlines, hb.trans htook⟩
    · rw [heq] at hwrite
      rcases hwrite with ⟨line, hline, hb, hnone⟩ | ⟨hb, -⟩
      · cases hnone
      · exact ⟨[], List.nil_sublist _, by simp, hb⟩

/-- **A sink that takes everything is given the lines of all objects.** -/
theorem writeObjects_all (hsink : ∀ i, a.sink.writeFault i = none) {objects : Fields}
    (h : ∀ e ∈ objects, ∃ line, documentLine a.statics time e.2 = .ok line) :
    ∃ taken : List ((Key × Value) × String), taken.map Prod.fst = objects ∧
      (∀ e ∈ taken, documentLine a.statics time e.1.2 = .ok e.2) ∧
      Took a (a.writeObjects time (objects.map Prod.snd)).1 (taken.map Prod.snd) ∧
      (a.writeObjects time (objects.map Prod.snd)).2 = none := by
  induction objects generalizing a with
  | nil => exact ⟨[], rfl, by simp, .refl a, rfl⟩
  | cons object objects ih =>
    obtain ⟨⟨line, hline⟩, h⟩ := List.forall_mem_cons.1 h
    rcases writeAt_cases a time object.2 with ⟨line, hline, hb, hnone⟩ | ⟨-, hfault⟩
    · rw [List.map_cons, writeObjects_cons]
      rcases heq : a.writeAt time object.2 with ⟨b, _ | e⟩
      · rw [heq] at hb
        obtain ⟨taken, rfl, hlines, htook, hend⟩ := ih b (fun i => by rw [hb.writeFault, hsink i])
          (by rwa [hb.statics])
        rw [hb.statics] at hlines
        exact ⟨(object, line) :: taken, rfl, List.forall_mem_cons.2 ⟨hline, hlines⟩,
          hb.trans htook, hend⟩
      · rw [heq] at hnone
        cases hnone
    · obtain ⟨f, hf⟩ := hfault line hline
      rw [hsink] at hf
      cases hf

/-- **A pass ends at the first object without a line.** -/
theorem writeObjects_until (hsink : ∀ i, a.sink.writeFault i = none) {pre post : Fields}
    {e : Key × Value} (hpre : ∀ e ∈ pre, ∃ line, documentLine a.statics time e.2 = .ok line)
    (he : ∀ line, documentLine a.statics time e.2 ≠ .ok line) :
    ∃ lines, lines.length = pre.length ∧
      Took a (a.writeObjects time ((pre ++ e :: post).map Prod.snd)).1 lines := by
  induction pre generalizing a with
  | nil =>
    refine ⟨[], rfl, ?_⟩
    rw [List.nil_append, List.map_cons, writeObjects_cons, writeAt_eq]
    cases hline : documentLine a.statics time e.2 with
    | ok line => exact absurd hline (he line)
    | error f => exact .refl a
  | cons object pre ih =>
    obtain ⟨⟨line, hline⟩, hpre⟩ := List.forall_mem_cons.1 hpre
    rcases writeAt_cases a time object.2 with ⟨line, -, hb, hnone⟩ | ⟨-, hfault⟩
    · rw [List.cons_append, List.map_cons, writeObjects_cons]
      rcases heq : a.writeAt time object.2 with ⟨b, _ | f⟩
      · rw [heq] at hb
        obtain ⟨lines, hlength, htook⟩ := ih b (fun i => by rw [hb.writeFault, hsink i])
          (by rwa [hb.statics]) (by rwa [hb.statics])
        exact ⟨line :: lines, congrArg Nat.succ hlength, hb.trans htook⟩
      · rw [heq] at hnone
        cases hnone
    · obtain ⟨f, hf⟩ := hfault line hline
      rw [hsink] at hf
      cases hf

theorem flushes_writeObjects (objects : List Value) :
    (a.writeObjects time objects).1.sink.flushes = a.sink.flushes := by
  induction objects generalizing a with
  | nil => rfl
  | cons object objects ih =>
    have hflushes := flushes_writeAt a time object
    rw [writeObjects_cons]
    rcases heq : a.writeAt time object with ⟨b, _ | e⟩
    · rw [heq] at hflushes
      exact (ih b).trans hflushes
    · rwa [heq] at hflushes

/-- **A sink that takes everything is given all objects** iff each of them has a line. -/
theorem writeObjects_eq_none_iff (hsink : ∀ i, a.sink.writeFault i = none) (objects : Fields) :
    (a.writeObjects time (objects.map Prod.snd)).2 = none ↔
      ∀ e ∈ objects, ∃ line, documentLine a.statics time e.2 = .ok line := by
  constructor
  · intro h
    induction objects generalizing a with
    | nil => simp
    | cons object objects ih =>
      rw [List.map_cons, writeObjects_cons] at h
      rcases heq : a.writeAt time object.2 with ⟨b, _ | e⟩
      · have hline := exists_line_of_writeAt a time object.2 (by rw [heq])
        obtain ⟨lines, htook⟩ : ∃ lines, Took a b lines := by
          rcases writeAt_cases a time object.2 with ⟨line, -, htook, -⟩ | ⟨htook, -⟩ <;>
            exact ⟨_, heq ▸ htook⟩
        rw [heq] at h
        have hrest := ih b (fun i => by rw [htook.writeFault, hsink i]) h
        rw [htook.statics] at hrest
        exact List.forall_mem_cons.2 ⟨hline, hrest⟩
      · rw [heq] at h
        cases h
  · intro h
    obtain ⟨taken, -, -, -, hend⟩ := writeObjects_all a time hsink h
    exact hend

/-! ## Passes -/

theorem flush_cases :
    Took a a.flush.1 [] ∧ (a.sink.flushFault a.sink.flushes = none → a.flush.2 = none) := by
  unfold flush
  simp only [Sink.flush]
  cases a.sink.flushFault a.sink.flushes with
  | none => exact ⟨⟨⟨rfl, rfl⟩, rfl, rfl, (List.append_nil _).symm⟩, fun _ => rfl⟩
  | some f =>
    refine ⟨?_, fun h => by cases h⟩
    simp only
    split_ifs <;> exact ⟨⟨rfl, rfl⟩, rfl, rfl, (List.append_nil _).symm⟩

/-- A flush comes through unless it fails with anything but the sink's own failures. -/
theorem flush_eq_none_iff : a.flush.2 = none ↔
    ∀ f, a.sink.flushFault a.sink.flushes = some f → f.kind.ofSink = true := by
  unfold flush
  simp only [Sink.flush]
  cases a.sink.flushFault a.sink.flushes with
  | none => simp
  | some f =>
    simp only
    split_ifs with hkind <;> simp [hkind]

theorem took_finishPass (began : Float) (count : ℕ) : Took a (a.finishPass began count) [] :=
  ⟨⟨rfl, rfl⟩, rfl, rfl, (List.append_nil _).symm⟩

theorem publish_cases (objects : Fields) {lines : List String}
    (h : Took a (a.writeObjects (timestamp a.clock.second) (objects.map Prod.snd)).1 lines) :
    Took a (a.publish objects).1 lines ∧
      ((a.writeObjects (timestamp a.clock.second) (objects.map Prod.snd)).2 = none →
        (∀ i, a.sink.flushFault i = none) → (a.publish objects).2 = none) := by
  rw [publish]
  rcases heq : a.writeObjects (timestamp a.clock.second) (objects.map Prod.snd) with ⟨b, _ | e⟩
  · rw [heq] at h
    obtain ⟨hflush, hnone⟩ := flush_cases b
    have hflush := h.trans hflush
    rw [List.append_nil] at hflush
    simp only
    rcases heq' : b.flush with ⟨c, _ | e⟩
    · rw [heq'] at hflush
      have hfinish := hflush.trans (took_finishPass c a.clock.mono objects.length)
      rw [List.append_nil] at hfinish
      exact ⟨hfinish, fun _ _ => rfl⟩
    · rw [heq'] at hflush hnone
      exact ⟨hflush, fun _ hflushes => hnone (by rw [h.flushFault, hflushes])⟩
  · rw [heq] at h
    exact ⟨h, fun hnone => by cases hnone⟩

theorem buildSnapshot_fst : a.buildSnapshot.1 =
    { a with log := a.log ++ a.assemble.1.dropped.map droppedRecord } := by
  unfold buildSnapshot
  rcases a.assemble with ⟨s, _ | e⟩ <;> rfl

theorem buildSnapshot_cases :
    Took a a.buildSnapshot.1 [] ∧ a.buildSnapshot.1.clock = a.clock ∧
      (∀ objects, a.buildSnapshot.2 = .ok objects ↔
        ∃ s, a.assemble = (s, none) ∧ objects = s.objects) := by
  unfold buildSnapshot
  rcases a.assemble with ⟨s, _ | e⟩
  · refine ⟨⟨⟨rfl, rfl⟩, rfl, rfl, (List.append_nil _).symm⟩, rfl, fun objects => ?_⟩
    constructor
    · intro h
      cases h
      exact ⟨s, rfl, rfl⟩
    · rintro ⟨_, h, rfl⟩
      cases h
      rfl
  · refine ⟨⟨⟨rfl, rfl⟩, rfl, rfl, (List.append_nil _).symm⟩, rfl, fun objects => ?_⟩
    constructor
    · intro h
      cases h
    · rintro ⟨_, h, rfl⟩
      cases h

theorem publishMetrics_eq {s : Snapshot} (h : a.assemble = (s, none)) :
    a.publishMetrics = a.buildSnapshot.1.publish s.objects := by
  have hobjects := (a.buildSnapshot_cases.2.2 s.objects).2 ⟨s, h, rfl⟩
  rw [publishMetrics]
  rcases heq : a.buildSnapshot with ⟨b, r⟩
  rw [heq] at hobjects
  simp only at hobjects
  rw [hobjects]

/-- **Whatever a pass over the metrics writes** are lines of objects of its snapshot, in order. -/
theorem publishMetrics_some :
    Took a a.publishMetrics.1 [] ∨
      ∃ (s : Snapshot) (taken : List ((Key × Value) × String)), a.assemble = (s, none) ∧
        (taken.map Prod.fst).Sublist s.objects ∧
        (∀ e ∈ taken, documentLine a.statics (timestamp a.clock.second) e.1.2 = .ok e.2) ∧
        Took a a.publishMetrics.1 (taken.map Prod.snd) := by
  obtain ⟨hbuild, hclock, hobjects⟩ := a.buildSnapshot_cases
  cases hr : a.buildSnapshot.2 with
  | error e =>
    refine Or.inl ?_
    rw [publishMetrics]
    rcases heq : a.buildSnapshot with ⟨b, r⟩
    rw [heq] at hr hbuild
    simp only at hr
    rw [hr]
    exact hbuild
  | ok objects =>
    obtain ⟨s, hs, rfl⟩ := (hobjects objects).1 hr
    rw [publishMetrics_eq a hs]
    obtain ⟨taken, hsub, hlines, htook⟩ := writeObjects_some a.buildSnapshot.1
      (timestamp a.buildSnapshot.1.clock.second) s.objects
    rw [hbuild.statics, hclock] at hlines
    exact Or.inr ⟨s, taken, hs, hsub, hlines, hbuild.trans (publish_cases _ _ htook).1⟩

/-- **A pass over the metrics writes the lines of all objects** to a sink that takes everything. -/
theorem publishMetrics_all {s : Snapshot} (hs : a.assemble = (s, none))
    (hsink : ∀ i, a.sink.writeFault i = none) (h : ∀ e ∈ s.objects, ∃ line,
      documentLine a.statics (timestamp a.clock.second) e.2 = .ok line) :
    ∃ taken : List ((Key × Value) × String), taken.map Prod.fst = s.objects ∧
      (∀ e ∈ taken, documentLine a.statics (timestamp a.clock.second) e.1.2 = .ok e.2) ∧
      Took a a.publishMetrics.1 (taken.map Prod.snd) ∧
      ((∀ i, a.sink.flushFault i = none) → a.publishMetrics.2 = none) := by
  obtain ⟨hbuild, hclock, -⟩ := a.buildSnapshot_cases
  have h : ∀ e ∈ s.objects, ∃ line, documentLine a.buildSnapshot.1.statics
      (timestamp a.buildSnapshot.1.clock.second) e.2 = .ok line := by
    rwa [hbuild.statics, hclock]
  obtain ⟨taken, htaken, hlines, htook, hend⟩ :=
    writeObjects_all _ _ (fun i => by rw [hbuild.writeFault, hsink i]) h
  obtain ⟨hpublish, hnone⟩ := publish_cases _ _ htook
  rw [hbuild.statics, hclock] at hlines
  rw [publishMetrics_eq a hs]
  exact ⟨taken, htaken, hlines, hbuild.trans hpublish,
    fun hflush => hnone hend fun i => by rw [hbuild.flushFault, hflush]⟩

/-- **A pass over the metrics ends at the first object without a line.** -/
theorem publishMetrics_until {s : Snapshot} (hs : a.assemble = (s, none))
    (hsink : ∀ i, a.sink.writeFault i = none) {pre post : Fields} {e : Key × Value}
    (hobjects : s.objects = pre ++ e :: post)
    (hpre : ∀ e ∈ pre, ∃ line, documentLine a.statics (timestamp a.clock.second) e.2 = .ok line)
    (he : ∀ line, documentLine a.statics (timestamp a.clock.second) e.2 ≠ .ok line) :
    ∃ lines, lines.length = pre.length ∧ Took a a.publishMetrics.1 lines := by
  obtain ⟨hbuild, hclock, -⟩ := a.buildSnapshot_cases
  rw [← hbuild.statics, ← hclock] at hpre he
  obtain ⟨lines, hlength, htook⟩ := @writeObjects_until _ _
    (fun i => by rw [hbuild.writeFault, hsink i]) _ post _ hpre he
  rw [← hobjects] at htook
  rw [publishMetrics_eq a hs]
  exact ⟨lines, hlength, hbuild.trans (publish_cases _ _ htook).1⟩

/-- **When a pass over the metrics comes through**: with a sink that takes everything, iff the
    metrics were assembled, every object has a line, and the flush behind them comes through. -/
theorem publishMetrics_eq_none_iff (hsink : ∀ i, a.sink.writeFault i = none) :
    a.publishMetrics.2 = none ↔
      (∃ s, a.assemble = (s, none) ∧ ∀ e ∈ s.objects, ∃ line,
        documentLine a.statics (timestamp a.clock.second) e.2 = .ok line) ∧
      ∀ f, a.sink.flushFault a.sink.flushes = some f → f.kind.ofSink = true := by
  rcases hs : a.assemble with ⟨s, _ | e⟩
  · have hwrite := writeObjects_eq_none_iff a.buildSnapshot.1
      (timestamp a.buildSnapshot.1.clock.second)
      (fun i => by rw [a.buildSnapshot_cases.1.writeFault, hsink i]) s.objects
    obtain ⟨taken, -, -, htook⟩ := writeObjects_some a.buildSnapshot.1
      (timestamp a.buildSnapshot.1.clock.second) s.objects
    have hflushes := flushes_writeObjects a.buildSnapshot.1
      (timestamp a.buildSnapshot.1.clock.second) (s.objects.map Prod.snd)
    -- neither building the objects nor writing them flushes the sink
    have hflushes' : a.buildSnapshot.1.sink.flushes = a.sink.flushes := by
      rw [buildSnapshot, hs]
    rw [a.buildSnapshot_cases.1.statics, a.buildSnapshot_cases.2.1] at hwrite
    rw [a.buildSnapshot_cases.2.1] at htook hflushes
    rw [publishMetrics_eq a hs, publish, a.buildSnapshot_cases.2.1]
    rcases heq : a.buildSnapshot.1.writeObjects (timestamp a.clock.second)
      (s.objects.map Prod.snd) with ⟨b, _ | e⟩
    · rw [heq] at hwrite htook hflushes
      have hflush := flush_eq_none_iff b
      rw [htook.flushFault, a.buildSnapshot_cases.1.flushFault, hflushes, hflushes'] at hflush
      have hlines := hwrite.1 rfl
      simp only
      rcases heq' : b.flush with ⟨c, _ | e⟩
      · rw [heq'] at hflush
        exact ⟨fun _ => ⟨⟨s, rfl, hlines⟩, hflush.1 rfl⟩, fun _ => rfl⟩
      · rw [heq'] at hflush
        exact ⟨fun h => (Option.some_ne_none _ h).elim, fun h => hflush.2 h.2⟩
    · rw [heq] at hwrite
      refine ⟨fun h => (Option.some_ne_none _ h).elim, ?_⟩
      rintro ⟨⟨t, ht, hlines⟩, -⟩
      cases ht
      exact hwrite.2 hlines
  · have herror : a.publishMetrics.2 = some e := by
      rw [publishMetrics, buildSnapshot, hs]
    simp [herror]

theorem took_publishMetrics : ∃ lines, Took a a.publishMetrics.1 lines := by
  rcases publishMetrics_some a with h | ⟨s, taken, -, -, -, h⟩
  · exact ⟨_, h⟩
  · exact ⟨_, h⟩

end

end MetricDocs.Aggregator
