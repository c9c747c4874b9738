/-
  A pass over a sink that may fail.

  * `wrote_until`: what the writes of a pass make of the aggregator, by the number of objects before
    the first that ends the pass;
  * `flush_eq` and `shows_finishPass`: the flush in closed form, and what the instruments show when
    the pass is finished;
  * `publish_of_some`, `publish_finished` and `publish_raised`: the three ends of a pass;
  * `publish_under_faults`: a whole pass, whatever the sink does.
-/
import MetricDocs.Proofs.Decimal.Differences
import MetricDocs.Proofs.Aggregator.Attempts

namespace MetricDocs

/-! ## Writes -/

theorem findSome?_eq_bind {α β : Type} (l : List α) (f : α → Option β) :
    l.findSome? f = l[l.findIdx fun e => (f e).isSome]?.bind f := by
  induction l with
  | nil => rfl
  | cons e l ih =>
    rw [List.findSome?_cons, List.findIdx_cons]
    cases hf : f e with
    | none => exact ih
    | some y => exact hf.symm

theorem findIdx_cases {α β : Type} (l : List α) (f : α → Option β) :
    let j := l.findIdx fun e => (f e).isSome
    (j < l.length ∧ ∃ e y, l[j]? = some e ∧ f e = some y ∧ l[j]?.bind f = some y) ∨
      (j = l.length ∧ l[j]?.bind f = none) := by
  intro j
  have hle : j ≤ l.length := List.findIdx_le_length
  rcases hle.lt_or_eq with hj | hj
  · obtain ⟨y, hy⟩ := Option.isSome_iff_exists.1 (List.findIdx_getElem (w := hj))
    have hget : l[j]? = some l[j] := List.getElem?_eq_getElem hj
    exact Or.inl ⟨hj, l[j], y, hget, hy, by rw [hget]; exact hy⟩
  · exact Or.inr ⟨hj, by rw [List.getElem?_eq_none hj.ge]; rfl⟩

theorem filterMap_accepted_filter (ts : List Attempt) :
    (ts.filter fun t => (Sink.raised? t.fault).isNone).filterMap Attempt.accepted? =
      ts.filterMap Attempt.accepted? := by
  rw [List.filterMap_filter]
  refine List.filterMap_congr fun t _ => ?_
  cases hf : t.fault with
  | none => rfl
  | some f => simp [Attempt.accepted?, hf]

theorem filterMap_complaint_filter (logger : String) (ts : List Attempt) :
    (ts.filter fun t => (Sink.raised? t.fault).isNone).filterMap (Attempt.complaint? logger) =
      ts.filterMap (Attempt.complaint? logger) := by
  rw [List.filterMap_filter]
  refine List.filterMap_congr fun t _ => ?_
  cases hf : t.fault with
  | none => rfl
  | some f => cases hkind : f.kind.ofSink <;> simp [Attempt.complaint?, Sink.raised?, hf, hkind]

theorem length_accepted (ts : List Attempt) :
    (ts.filterMap Attempt.accepted?).length = ts.countP (·.fault.isNone) := by
  rw [List.length_filterMap_eq_countP]
  refine List.countP_congr fun t _ => ?_
  cases hf : t.fault <;> simp [Attempt.accepted?, hf]

theorem length_complaints (logger : String) (ts : List Attempt) :
    (ts.filterMap (Attempt.complaint? logger)).length =
      ts.countP fun t => Sink.reported t.fault := by
  rw [List.length_filterMap_eq_countP]
  refine List.countP_congr fun t _ => ?_
  cases hf : t.fault with
  | none => simp [Attempt.complaint?, Sink.reported, hf]
  | some f =>
    cases hkind : f.kind.ofSink <;> simp [Attempt.complaint?, Sink.reported, hf, hkind]

namespace Aggregator

/-- The lines out of a list that a sink takes; the first is given to the write of number `i`. -/
def taken (sink : Sink) (i : ℕ) (lines : List String) : List String :=
  (lines.zipIdx i).filterMap fun e => if (sink.writeFault e.2).isNone then some e.1 else none

/-- The records of failed writes, one for each. -/
def complaints (a : Aggregator) (objects : List (Value × ℕ)) : List LogRecord :=
  objects.filterMap fun e => (a.sink.writeFault e.2).map fun f =>
    .plain Level.error a.logger
      ("Failed to write metric '" ++ metricShown e.1 ++ "': " ++ f.failure.message)

section
variable (a : Aggregator) (time : String)

theorem survivors_eq_take (objects : List (Value × ℕ)) :
    a.survivors time objects =
      objects.take (objects.findIdx fun e => (a.fatal? time e).isSome) := by
  rw [survivors, List.takeWhile_eq_take_findIdx_not]
  simp only [Option.not_isNone]

theorem complaints_survivors (objects : List (Value × ℕ)) :
    ((a.survivors time objects).filterMap (a.attempt? time)).filterMap
        (Attempt.complaint? a.logger) =
      a.complaints (a.survivors time objects) := by
  rw [List.filterMap_filterMap, complaints]
  refine List.filterMap_congr fun e he => ?_
  have hfatal : a.fatal? time e = none := by simpa using List.mem_takeWhile_imp he
  rw [attempt?]
  rw [fatal?] at hfatal
  cases hline : documentLine a.statics time e.1 with
  | error f => rw [hline] at hfatal; cases hfatal
  | ok line =>
    rw [hline] at hfatal
    cases hfault : a.sink.writeFault e.2 with
    | none => simp [Except.toOption, Attempt.complaint?]
    | some f =>
      have hkind : f.kind.ofSink = true := by simpa [Sink.raised?, hfault] using hfatal
      simp [Except.toOption, Attempt.complaint?, hkind]

/-- **What the writes of a pass make of the aggregator**, where `j` objects come before the first
    that ends the pass. -/
theorem wrote_until (objects : List Value) :
    let numbered := objects.zipIdx a.sink.writes
    let j := numbered.findIdx fun e => (a.fatal? time e).isSome
    let lines := linesUntil a.statics time objects
    ∃ ts, Wrote a (a.writeObjects time objects).1 ts ∧ j ≤ lines.length ∧
      ts.filterMap Attempt.accepted? = taken a.sink a.sink.writes (lines.take j) ∧
      ts.filterMap (Attempt.complaint? a.logger) = a.complaints (numbered.take j) ∧
      (a.writeObjects time objects).2 = numbered[j]?.bind (a.fatal? time) := by
  intro numbered j lines
  obtain ⟨⟨ts, hwrote, hfilter⟩, hresult⟩ := wrote_writeObjects a time objects
  obtain ⟨hlength, hlines⟩ := numbered_lines a time objects a.sink.writes
  have hsurvivors : a.survivors time numbered = numbered.take j := survivors_eq_take a time _
  have hj : (a.survivors time numbered).length = j := by
    rw [hsurvivors, List.length_take]
    exact Nat.min_eq_left List.findIdx_le_length
  refine ⟨ts, hwrote, hj ▸ hlength, ?_, ?_, hresult.trans (findSome?_eq_bind _ _)⟩
  · rw [← filterMap_accepted_filter, hfilter, hlines, ← hj]
    rfl
  · rw [← filterMap_complaint_filter, hfilter, complaints_survivors]
    exact congrArg a.complaints hsurvivors

/-! ## The end of a pass -/

/-- The record of a failed flush, if the sink reported it about itself. -/
def flushComplaint? : Option LogRecord :=
  ((a.sink.flushFault a.sink.flushes).filter fun f => f.kind.ofSink).map fun f =>
    .plain Level.error a.logger ("Failed to flush metrics sink: " ++ f.failure.message)

/-- What a flush leaves: the sink counts it, and a failure that the sink reported is logged. -/
def flushed : Aggregator :=
  { a with
    sink := { a.sink with flushes := a.sink.flushes + 1 }
    log := a.log ++ a.flushComplaint?.toList }

/-- **The flush of a sink**, and the failure that it raised. -/
theorem flush_eq : a.flush = (a.flushed, Sink.raised? (a.sink.flushFault a.sink.flushes)) := by
  simp only [flush, Sink.flush, flushed, flushComplaint?]
  cases a.sink.flushFault a.sink.flushes with
  | none => simp [Sink.raised?]
  | some f =>
    cases hkind : f.kind.ofSink <;> simp [Option.filter_some, Sink.raised?, hkind, say, record]

theorem log_flushed_of_raised {e : Failure}
    (h : Sink.raised? (a.sink.flushFault a.sink.flushes) = some e) : a.flushed.log = a.log := by
  rw [flushed, flushComplaint?]
  cases hfault : a.sink.flushFault a.sink.flushes with
  | none => simp
  | some f =>
    rw [hfault, Sink.raised?_some] at h
    cases hkind : f.kind.ofSink with
    | true => rw [if_pos hkind] at h; cases h
    | false => simp [Option.filter_some, hkind]

/-- **What the instruments show when a pass is finished.** -/
theorem shows_finishPass {start : String} {x : Readings} (hfamily : a.family = .named start)
    (hshows : a.registry.Shows a.family x) (began : Float) {count : ℕ} (hcount : count < 2 ^ 1023) :
    (a.finishPass began count).registry.Shows a.family { x with
      durations := x.durations.observe (a.clock.mono - began)
      objects := count } := by
  rw [hfamily] at hshows ⊢
  obtain ⟨r, hr, hobjects⟩ := hshows.setObjects (n := count) hcount
  have hregistry : (a.finishPass began count).registry =
      r.observeDuration (.named start) (a.clock.mono - began) := by
    simp only [finishPass, hfamily, hr]
    rfl
  rw [hregistry]
  exact hobjects.observeDuration _

theorem publish_of_some {objects : Fields} {b : Aggregator} {e : Failure}
    (h : a.writeObjects (timestamp a.clock.second) (objects.map Prod.snd) = (b, some e)) :
    a.publish objects = (b, some e) := by
  rw [publish, h]

theorem publish_of_none {objects : Fields} {b : Aggregator}
    (h : a.writeObjects (timestamp a.clock.second) (objects.map Prod.snd) = (b, none)) :
    a.publish objects = match Sink.raised? (b.sink.flushFault b.sink.flushes) with
      | some e => (b.flushed, some e)
      | none => (b.flushed.finishPass a.clock.mono objects.length, none) := by
  rw [publish, h]
  simp only
  rw [flush_eq]
  cases Sink.raised? (b.sink.flushFault b.sink.flushes) <;> rfl

/-- **What a pass leaves that comes through**: one flush, whose failure is logged if there is one,
    the record of the pass, and its duration and number of objects on the instruments. -/
theorem publish_finished {objects : Fields} {b : Aggregator} {start : String} {x : Readings}
    (h : a.writeObjects (timestamp a.clock.second) (objects.map Prod.snd) = (b, none))
    (hraised : Sink.raised? (b.sink.flushFault b.sink.flushes) = none)
    (hfamily : b.family = .named start) (hshows : b.registry.Shows b.family x)
    (hlength : objects.length < 2 ^ 1023) :
    let c := (a.publish objects).1
    (a.publish objects).2 = none ∧ c.sink.flushes = b.sink.flushes + 1 ∧
      c.log = b.log ++ b.flushComplaint?.toList ++ [.plain Level.debug b.logger
        ("Published " ++ Decimal.intText objects.length ++ " metric objects")] ∧
      c.registry.Shows b.family { x with
        durations := x.durations.observe (c.clock.mono - a.clock.mono)
        objects := objects.length } := by
  rw [publish_of_none a h, hraised]
  exact ⟨rfl, rfl, rfl, shows_finishPass b.flushed hfamily hshows a.clock.mono hlength⟩

/-- **What a pass leaves whose flush raises a failure**: one flush, and nothing else. -/
theorem publish_raised {objects : Fields} {b : Aggregator} {e : Failure}
    (h : a.writeObjects (timestamp a.clock.second) (objects.map Prod.snd) = (b, none))
    (hraised : Sink.raised? (b.sink.flushFault b.sink.flushes) = some e) :
    let c := (a.publish objects).1
    (a.publish objects).2 = some e ∧ c.sink.flushes = b.sink.flushes + 1 ∧ c.log = b.log ∧
      c.registry = b.registry := by
  rw [publish_of_none a h, hraised]
  exact ⟨rfl, rfl, log_flushed_of_raised b hraised, rfl⟩

theorem taken_willing (i : ℕ) (lines : List String) : taken .willing i lines = lines := by
  have hall : ∀ e : String × ℕ,
      (if (Sink.willing.writeFault e.2).isNone then some e.1 else none) = some e.1 := fun _ => rfl
  simp only [taken, hall]
  rw [List.filterMap_eq_map', List.zipIdx_map_fst]

/-- **A sink that takes everything** is given the lines up to the first object that has none. -/
theorem out_publish_willing (objects : Fields) :
    ({ a with sink := .willing }.publish objects).1.out =
      a.out ++ linesUntil a.statics (timestamp a.clock.second) (objects.map Prod.snd) := by
  set w : Aggregator := { a with sink := .willing }
  set time := timestamp a.clock.second
  obtain ⟨ts, hwrote, -, haccepted, -⟩ := wrote_until w time (objects.map Prod.snd)
  have hall : (w.survivors time ((objects.map Prod.snd).zipIdx 0)).length =
      (linesUntil a.statics time (objects.map Prod.snd)).length :=
    length_survivors_of_willing w time (fun _ => rfl) _ _
  have hwriting : (w.publish objects).1.out = a.out ++ ts.filterMap Attempt.accepted? :=
    (publish_cases w objects hwrote.toTook).1.out
  rw [hwriting, haccepted]
  rw [survivors_eq_take, List.length_take, Nat.min_eq_left List.findIdx_le_length] at hall
  exact congrArg (a.out ++ ·) ((taken_willing _ _).trans (List.take_of_length_le hall.ge))

end

/-! ## The main theorem -/

/-- **A pass over a sink that may fail in any way.**  Let the first `j` of `n` objects be those
    before the first that has no line or whose write fails with a failure that the sink does not
    report about itself.  The sink takes, of the lines that one that never fails is given, the first
    `j` but for those whose write failed, and each of these failures is logged with the name of the
    object.  If an object is left, the pass fails with the failure of the first one, without a
    flush, and neither the duration of a pass nor its number of objects is recorded.  Otherwise
    there is one flush.  A failure that the sink reports about itself is only logged, any other is
    that of the pass, and duration and number are recorded unless there is such a failure. -/
theorem publish_under_faults {start : String} {x : Readings} (a : Aggregator) (objects : Fields)
    (hfamily : a.family = .named start) (hshows : a.registry.Shows a.family x)
    (hbefore : a.clock.mono.isFinite) (hafter : (a.publish objects).1.clock.mono.isFinite)
    (hlength : objects.length < 2 ^ 63) :
    let b := (a.publish objects).1
    let n := objects.length
    let numbered := (objects.map Prod.snd).zipIdx a.sink.writes
    let fatal? := a.fatal? (timestamp a.clock.second)
    let j := numbered.findIdx fun e => (fatal? e).isSome
    let complaints := a.complaints (numbered.take j)
    let published := LogRecord.plain Level.debug a.logger
      ("Published " ++ Decimal.intText n ++ " metric objects")
    ∃ lines, ({ a with sink := .willing }.publish objects).1.out = a.out ++ lines ∧
      j ≤ lines.length ∧
      let accepted := taken a.sink a.sink.writes (lines.take j)
      let counted := { x with
        documents := x.documents + accepted.length
        writeErrors := x.writeErrors + complaints.length }
      let finished := { counted with
        durations := x.durations.observe (b.clock.mono - a.clock.mono)
        objects := (n : ℤ) }
      b.out = a.out ++ accepted ∧
      (j < n → (∃ e f, numbered[j]? = some e ∧ fatal? e = some f ∧
          (a.publish objects).2 = some f) ∧
        b.sink.flushes = a.sink.flushes ∧
        b.log = a.log ++ complaints ∧
        b.registry.Shows a.family counted) ∧
      (j = n → b.sink.flushes = a.sink.flushes + 1 ∧
        finished.durations.count = x.durations.count + 1 ∧
        (a.publish objects).2 = Sink.raised? (a.sink.flushFault a.sink.flushes) ∧
        ((a.publish objects).2 = none →
          b.log = a.log ++ complaints ++ a.flushComplaint?.toList ++ [published] ∧
          b.registry.Shows a.family finished) ∧
        ((a.publish objects).2 ≠ none →
          b.log = a.log ++ complaints ∧ b.registry.Shows a.family counted)) := by
  intro b n numbered fatal? j complaints published
  obtain ⟨ts, hwrote, hj, haccepted, hcomplaints, hresult⟩ :=
    wrote_until a (timestamp a.clock.second) (objects.map Prod.snd)
  refine ⟨_, a.out_publish_willing objects, hj, ?_⟩
  intro accepted counted finished
  have hout : b.out = a.out ++ accepted := by
    rw [(publish_cases a objects hwrote.toTook).1.out, haccepted]
  have hlog := hwrote.log
  have hcounted := hwrote.shows start x hfamily hshows
  rw [hcomplaints] at hlog
  rw [← length_accepted, ← length_complaints a.logger, haccepted, hcomplaints] at hcounted
  have hn : numbered.length = n := by rw [List.length_zipIdx, List.length_map]
  refine ⟨hout, ?_⟩
  -- The writes counted and logged what they did in either case; what is left is how the pass ended.
  rcases heq : a.writeObjects (timestamp a.clock.second) (objects.map Prod.snd) with ⟨c, r⟩
  rw [heq] at hwrote hlog hcounted hresult
  rcases findIdx_cases numbered fatal? with ⟨hlt, e, f, he, hf, hfirst⟩ | ⟨hend, hnone⟩
  · rw [hfirst] at hresult
    subst hresult
    have hpublish : a.publish objects = (c, some f) := a.publish_of_some heq
    have hb : b = c := congrArg Prod.fst hpublish
    rw [hb, hpublish]
    exact ⟨fun _ => ⟨⟨e, f, he, hf, rfl⟩, hwrote.flushes, hlog, hcounted⟩,
      fun h => absurd (hn.trans h.symm) hlt.ne'⟩
  · rw [hnone] at hresult
    subst hresult
    refine ⟨fun h => absurd (hend.trans hn) h.ne, fun _ => ?_⟩
    have hobserved : finished.durations.count = x.durations.count + 1 :=
      Histogram.count_observe hshows.formed (Decimal.beq_self_sub hafter hbefore)
    -- No write is a flush, so the sink has the same failure for the flush as before the pass.
    have hfault : c.sink.flushFault c.sink.flushes = a.sink.flushFault a.sink.flushes := by
      rw [hwrote.flushFault, hwrote.flushes]
    cases hraised : Sink.raised? (a.sink.flushFault a.sink.flushes) with
    | none =>
      have hcomplaint : c.flushComplaint? = a.flushComplaint? := by
        rw [flushComplaint?, flushComplaint?, hfault, hwrote.logger]
      have hlarge : objects.length < 2 ^ 1023 := by
        refine lt_of_lt_of_le hlength ?_
        exact pow_le_pow_right₀ one_le_two (by norm_num)
      obtain ⟨hnone, hflushes, hfinish, hfinished⟩ := a.publish_finished heq (hfault ▸ hraised)
        (hwrote.family.trans hfamily) (hwrote.family.symm ▸ hcounted) hlarge
      refine ⟨hflushes.trans (congrArg (· + 1) hwrote.flushes), hobserved, hnone,
        fun _ => ⟨?_, hwrote.family ▸ hfinished⟩, fun h => absurd hnone h⟩
      rw [hfinish, hlog, hcomplaint, hwrote.logger]
    | some e =>
      obtain ⟨hsome, hflushes, hkept, hregistry⟩ := a.publish_raised heq (hfault ▸ hraised)
      refine ⟨hflushes.trans (congrArg (· + 1) hwrote.flushes), hobserved, hsome, fun h => ?_,
        fun _ => ⟨hkept.trans hlog, hregistry ▸ hcounted⟩⟩
      rw [hsome] at h
      cases h

/-- An aggregator whose sink refuses its first write, and breaks at the third. -/
def flaky : Aggregator :=
  start "\x7b\x7d" (.named "")
    ⟨Sink.faultAt [(0, ⟨.os, "disk full"⟩), (2, ⟨.runtime, "gone"⟩)], fun _ => none, 0.0, 0, 0⟩
    .start

/-- Three objects that show nothing. -/
def bareObjects : Fields := ["input", "buffer", "output"].map fun name => (.text name, .mapping [])

theorem flaky_publishes :
    (∃ f, (flaky.publish bareObjects).2 = some f) ∧
      (flaky.publish bareObjects).1.sink.flushes = 0 ∧
      (flaky.publish bareObjects).1.log.map LogRecord.message =
        ["Failed to write metric 'None': disk full"] := by
  obtain ⟨lines, -, -, -, hended, -⟩ := publish_under_faults (x := .zero) flaky bareObjects rfl
    (Registry.shows_ofFamily "") (by decide +kernel) (by decide +kernel) (by decide)
  obtain ⟨⟨e, f, -, -, hf⟩, hflushes, hlog, -⟩ := hended (by decide +kernel)
  refine ⟨⟨f, hf⟩, hflushes, ?_⟩
  rw [hlog]
  decide +kernel

end Aggregator

end MetricDocs
