/-
  The writes of a pass, one by one.

  A write is numbered by the sink.  It is taken, or it fails with a failure that the sink reports
  about itself, which is logged and counted, or it fails otherwise, which ends the pass.

  * `Attempt` is a write with its outcome, and `Wrote a b attempts` says all that these writes make
    of an aggregator: what was taken, what was logged and what the instruments show;
  * `wrote_writeAt`: a document with a line is one write;
  * `fatal?` is the failure that an object ends a pass with, and `survivors` are the objects before
    the first such;
  * `wrote_writeObjects`: a pass writes the survivors and gives the first fatal failure;
  * `linesUntil` and `numbered_lines`: the survivors have the first of the lines that a sink that
    takes everything is given.
-/
import MetricDocs.Proofs.Instruments.Recording
import MetricDocs.Proofs.Aggregator.Writing

namespace MetricDocs

/-! ## Attempts -/

/-- Whether a sink reported a failure about itself. -/
def Sink.reported (fault : Option SinkFault) : Bool := fault.any fun f => f.kind.ofSink

/-- The failure of a sink, unless it is one that the sink reports about itself. -/
def Sink.raised? (fault : Option SinkFault) : Option Failure :=
  (fault.filter fun f => !f.kind.ofSink).map SinkFault.failure

theorem Sink.raised?_some (f : SinkFault) :
    Sink.raised? (some f) = if f.kind.ofSink then none else some f.failure := by
  cases h : f.kind.ofSink <;> simp [raised?, Option.filter_some, h]

/-- A write: the object, its line, and the failure of the sink, if it failed. -/
structure Attempt where
  object : Value
  line : String
  fault : Option SinkFault

namespace Attempt

/-- The line, if the sink took it. -/
def accepted? (t : Attempt) : Option String := if t.fault.isNone then some t.line else none

/-- The record of a failure that the sink reported about itself. -/
def complaint? (logger : String) (t : Attempt) : Option LogRecord :=
  (t.fault.filter fun f => f.kind.ofSink).map fun f =>
    .plain Level.error logger
      ("Failed to write metric '" ++ metricShown t.object ++ "': " ++ f.failure.message)

end Attempt

namespace Aggregator

/-- These writes were made, and nothing else was done. -/
structure Wrote (a b : Aggregator) (attempts : List Attempt) : Prop
    extends Took a b (attempts.filterMap Attempt.accepted?) where
  family : b.family = a.family
  logger : b.logger = a.logger
  closed : b.closed = a.closed
  log : b.log = a.log ++ attempts.filterMap (Attempt.complaint? a.logger)
  writes : b.sink.writes = a.sink.writes + attempts.length
  flushes : b.sink.flushes = a.sink.flushes
  faults : attempts.map Attempt.fault =
    (List.range' a.sink.writes attempts.length).map a.sink.writeFault
  shows : ∀ start x, a.family = .named start → a.registry.Shows a.family x →
    b.registry.Shows a.family { x with
      documents := x.documents + attempts.countP (·.fault.isNone)
      writeErrors := x.writeErrors + attempts.countP fun t => Sink.reported t.fault }

section
variable {a b c : Aggregator} {ts us : List Attempt}

theorem Wrote.refl (a : Aggregator) : Wrote a a [] :=
  ⟨.refl a, rfl, rfl, rfl, (List.append_nil _).symm, rfl, rfl, rfl, fun _ _ _ h => h⟩

theorem Wrote.trans (h : Wrote a b ts) (h' : Wrote b c us) : Wrote a c (ts ++ us) where
  toTook := by
    rw [List.filterMap_append]
    exact h.toTook.trans h'.toTook
  family := h'.family.trans h.family
  logger := h'.logger.trans h.logger
  closed := h'.closed.trans h.closed
  log := by rw [h'.log, h.log, h.logger, List.filterMap_append, List.append_assoc]
  writes := by rw [h'.writes, h.writes, List.length_append, Nat.add_assoc]
  flushes := h'.flushes.trans h.flushes
  faults := by
    rw [List.map_append, h.faults, h'.faults, h.writeFault, h.writes, List.length_append,
      ← List.map_append, List.range'_append_1]
  shows start x hfamily hx := by
    have hb := h'.shows start _ (h.family.trans hfamily) (h.family ▸ h.shows start x hfamily hx)
    rw [h.family] at hb
    simp only [Nat.add_assoc] at hb
    rwa [List.countP_append, List.countP_append]

end

/-! ## One document -/

section
variable (a : Aggregator) (time : String)

/-- The write of a numbered object, if the object has a line. -/
def attempt? (e : Value × ℕ) : Option Attempt :=
  (documentLine a.statics time e.1).toOption.map fun line => ⟨e.1, line, a.sink.writeFault e.2⟩

/-- The failure that an object ends a pass with: it has no line, or its write fails with a failure
    that the sink does not report about itself. -/
def fatal? (e : Value × ℕ) : Option Failure :=
  match documentLine a.statics time e.1 with
  | .error f => some f
  | .ok _ => Sink.raised? (a.sink.writeFault e.2)

theorem putLine_eq (object : Value) (line : String) : a.putLine object line =
    let b := { a with
      sink := { a.sink with writes := a.sink.writes + 1 }
      clock := { a.clock with mono := a.clock.mono + a.sink.writeCost } }
    match a.sink.writeFault a.sink.writes with
    | none =>
      ({ b with out := a.out ++ [line], registry := a.registry.countDocument a.family }, none)
    | some f =>
      if f.kind.ofSink then
        ({ b with
          log := a.log ++ [.plain Level.error a.logger
            ("Failed to write metric '" ++ metricShown object ++ "': " ++ f.failure.message)]
          registry := a.registry.countWriteError a.family }, none)
      else (b, some f.failure) :=
  (rfl)

/-- **A line that is handed to the sink is one write.** -/
theorem wrote_putLine (object : Value) (line : String) :
    Wrote a (a.putLine object line).1 [⟨object, line, a.sink.writeFault a.sink.writes⟩] ∧
      (a.putLine object line).2 = Sink.raised? (a.sink.writeFault a.sink.writes) := by
  rw [putLine_eq]
  cases hfault : a.sink.writeFault a.sink.writes with
  | none =>
    refine ⟨⟨⟨⟨rfl, rfl⟩, rfl, rfl, rfl⟩, rfl, rfl, rfl, (List.append_nil _).symm, rfl, rfl, ?_,
      fun start x hfamily hx => ?_⟩, rfl⟩
    · simp [hfault]
    · rw [hfamily] at hx ⊢
      exact hx.countDocument
  | some f =>
    simp only
    by_cases hkind : f.kind.ofSink
    · rw [if_pos hkind]
      refine ⟨⟨⟨⟨rfl, rfl⟩, rfl, rfl, (List.append_nil _).symm⟩, rfl, rfl, rfl, ?_, rfl, rfl, ?_,
        fun start x hfamily hx => ?_⟩, ?_⟩
      · simp [Attempt.complaint?, hkind]
      · simp [hfault]
      · rw [hfamily] at hx ⊢
        simpa [Sink.reported, hkind] using hx.countWriteError
      · simp [Sink.raised?, hkind]
    · rw [if_neg hkind]
      refine ⟨⟨⟨⟨rfl, rfl⟩, rfl, rfl, (List.append_nil _).symm⟩, rfl, rfl, rfl, ?_, rfl, rfl, ?_,
        fun start x hfamily hx => ?_⟩, ?_⟩
      · simp [Attempt.complaint?, hkind]
      · simp [hfault]
      · simpa [Sink.reported, hkind] using hx
      · simp [Sink.raised?, hkind]

/-- **A document with a line is one write**, and one without a line is none. -/
theorem wrote_writeAt (object : Value) :
    Wrote a (a.writeAt time object).1 (a.attempt? time (object, a.sink.writes)).toList ∧
      (a.writeAt time object).2 = a.fatal? time (object, a.sink.writes) := by
  rw [writeAt_eq, fatal?, attempt?]
  cases documentLine a.statics time object with
  | error e => exact ⟨.refl a, rfl⟩
  | ok line => exact wrote_putLine a object line

/-! ## Documents in order -/

/-- The objects before the first that ends a pass. -/
def survivors (objects : List (Value × ℕ)) : List (Value × ℕ) :=
  objects.takeWhile fun e => (a.fatal? time e).isNone

theorem attempt?_isSome_of_fatal? {e : Value × ℕ} (h : a.fatal? time e = none) :
    ∃ t, a.attempt? time e = some t ∧ Sink.raised? t.fault = none := by
  rw [fatal?] at h
  rw [attempt?]
  cases hline : documentLine a.statics time e.1 with
  | error f => rw [hline] at h; cases h
  | ok line =>
    rw [hline] at h
    exact ⟨_, rfl, h⟩

theorem raised?_of_fatal? {e : Value × ℕ} {f : Failure} (h : a.fatal? time e = some f)
    {t : Attempt} (ht : a.attempt? time e = some t) : Sink.raised? t.fault = some f := by
  rw [fatal?] at h
  rw [attempt?] at ht
  cases hline : documentLine a.statics time e.1 with
  | error f => rw [hline] at ht; cases ht
  | ok line =>
    rw [hline] at h ht
    cases ht
    exact h

/-- **A pass writes its objects up to the first failure that ends it**, which it gives back. -/
theorem wrote_writeObjects (objects : List Value) :
    (∃ ts, Wrote a (a.writeObjects time objects).1 ts ∧
      ts.filter (fun t => (Sink.raised? t.fault).isNone) =
        (a.survivors time (objects.zipIdx a.sink.writes)).filterMap (a.attempt? time)) ∧
      (a.writeObjects time objects).2 =
        (objects.zipIdx a.sink.writes).findSome? (a.fatal? time) := by
  induction objects generalizing a with
  | nil => exact ⟨⟨[], .refl a, rfl⟩, rfl⟩
  | cons object objects ih =>
    obtain ⟨hwrote, hresult⟩ := wrote_writeAt a time object
    rw [writeObjects_cons, List.zipIdx_cons, List.findSome?_cons, survivors, List.takeWhile_cons]
    rcases heq : a.writeAt time object with ⟨b, r⟩
    rw [heq] at hwrote hresult
    simp only at hresult
    cases hfatal : a.fatal? time (object, a.sink.writes) with
    | none =>
      obtain ⟨t, ht, hraised⟩ := attempt?_isSome_of_fatal? a time hfatal
      rw [ht] at hwrote
      obtain ⟨⟨ts, hwrote', hfilter⟩, hresult'⟩ := ih b
      -- what ends a pass, and what its writes are, is as before the first write
      have hattempt : b.attempt? time = a.attempt? time := by
        unfold attempt?
        rw [hwrote.statics, hwrote.writeFault]
      have hsame : b.fatal? time = a.fatal? time := by
        unfold fatal?
        rw [hwrote.statics, hwrote.writeFault]
      have hwrites : b.sink.writes = a.sink.writes + 1 := hwrote.writes
      rw [survivors, hattempt, hsame, hwrites] at hfilter
      rw [hsame, hwrites] at hresult'
      rw [hresult, hfatal]
      refine ⟨⟨t :: ts, hwrote.trans hwrote', ?_⟩, hresult'⟩
      simp only [Option.isNone_none, if_true, List.filterMap_cons_some ht]
      rw [List.filter_cons_of_pos (by rw [hraised]; rfl), hfilter]
    | some f =>
      rw [hresult, hfatal]
      refine ⟨⟨_, hwrote, ?_⟩, rfl⟩
      simp only [Option.isNone_some, Bool.false_eq_true, if_false, List.filterMap_nil]
      cases ht : a.attempt? time (object, a.sink.writes) with
      | none => rfl
      | some t =>
        have hraised := raised?_of_fatal? a time hfatal ht
        exact List.filter_cons_of_neg (by simp [hraised])

/-! ## Lines -/

/-- The lines of objects up to the first object that has none. -/
def linesUntil (statics time : String) : List Value → List String
  | [] => []
  | object :: objects =>
    match documentLine statics time object with
    | .error _ => []
    | .ok line => line :: linesUntil statics time objects

/-- **The survivors have the first of these lines.** -/
theorem numbered_lines (objects : List Value) (i : ℕ) :
    (a.survivors time (objects.zipIdx i)).length ≤ (linesUntil a.statics time objects).length ∧
      ((a.survivors time (objects.zipIdx i)).filterMap (a.attempt? time)).filterMap
          Attempt.accepted? =
        (((linesUntil a.statics time objects).take
          (a.survivors time (objects.zipIdx i)).length).zipIdx i).filterMap fun e =>
            if (a.sink.writeFault e.2).isNone then some e.1 else none := by
  induction objects generalizing i with
  | nil => exact ⟨le_rfl, rfl⟩
  | cons object objects ih =>
    obtain ⟨hlength, hlines⟩ := ih (i + 1)
    rw [List.zipIdx_cons, survivors, List.takeWhile_cons]
    rw [survivors] at hlength hlines
    cases hfatal : a.fatal? time (object, i) with
    | some f => exact ⟨Nat.zero_le _, rfl⟩
    | none =>
      cases hline : documentLine a.statics time object with
      | error f => simp [fatal?, hline] at hfatal
      | ok line =>
        have hattempt : a.attempt? time (object, i) =
            some ⟨object, line, a.sink.writeFault i⟩ := by
          rw [attempt?, hline]
          rfl
        simp only [Option.isNone_none, if_true, linesUntil, hline, List.length_cons,
          List.take_succ_cons, List.zipIdx_cons, List.filterMap_cons_some hattempt,
          List.filterMap_cons, Attempt.accepted?]
        refine ⟨Nat.succ_le_succ hlength, ?_⟩
        rw [← hlines]

theorem length_survivors_of_willing (hsink : ∀ i, a.sink.writeFault i = none)
    (objects : List Value) (i : ℕ) :
    (a.survivors time (objects.zipIdx i)).length = (linesUntil a.statics time objects).length := by
  induction objects generalizing i with
  | nil => rfl
  | cons object objects ih =>
    have ih := ih (i + 1)
    rw [survivors] at ih
    rw [List.zipIdx_cons, survivors, List.takeWhile_cons, fatal?, hsink, linesUntil]
    cases documentLine a.statics time object with
    | error f => rfl
    | ok line => exact congrArg Nat.succ ih

end

end Aggregator

end MetricDocs
