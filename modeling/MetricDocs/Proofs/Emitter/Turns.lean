/-
  What a turn of the emitter does.

  * `OfPass r` says which records a pass over the metrics leaves (`log_publishMetrics`): none of
    them is one of the emitter's own;
  * `failureRecord f` and `overrunRecord e seconds` are the records of a failed pass and of one that
    left no pause, and `reportsFailure` and `warnsOverrun` tell them from all others;
  * `Did e b ..` says what came between two emitters: whether it was stopped, the passes that came
    through, the events of the signal, the failed passes and the overruns;
  * `did_pass` and `did_rest`: the two halves of a turn, in any kind of numbers.
-/
import MetricDocs.Emitter
import MetricDocs.Proofs.Aggregator.Passes

namespace MetricDocs

/-! ## The records of a pass -/

namespace Aggregator

/-- A record that a pass over the metrics leaves: of a metric that was dropped, of a failure of the
    sink, or of the pass itself. -/
def OfPass (r : LogRecord) : Prop :=
  r.level = Level.warning ∧ r.logger = Logger.grouping ∨
    r.level = Level.error ∧ (∃ s, r.message = "Failed to " ++ s) ∨ r.level = Level.debug

section
variable (a : Aggregator)

theorem ofPass_complaint {logger : String} {t : Attempt} {r : LogRecord}
    (h : t.complaint? logger = some r) : OfPass r := by
  obtain ⟨f, -, rfl⟩ := Option.map_eq_some_iff.1 h
  refine Or.inr (Or.inl ⟨rfl, "write metric '" ++ metricShown t.object ++ "': " ++
    f.failure.message, ?_⟩)
  simp only [LogRecord.plain, ← String.append_assoc]
  rfl

theorem ofPass_flushComplaint {r : LogRecord} (h : a.flushComplaint? = some r) : OfPass r := by
  obtain ⟨f, -, rfl⟩ := Option.map_eq_some_iff.1 h
  refine Or.inr (Or.inl ⟨rfl, "flush metrics sink: " ++ f.failure.message, ?_⟩)
  simp only [LogRecord.plain, ← String.append_assoc]
  rfl

theorem log_publish (objects : Fields) :
    ∃ records, (a.publish objects).1.log = a.log ++ records ∧ ∀ r ∈ records, OfPass r := by
  obtain ⟨⟨ts, hwrote, -⟩, -⟩ :=
    wrote_writeObjects a (timestamp a.clock.second) (objects.map Prod.snd)
  have hcomplaints : ∀ r ∈ ts.filterMap (Attempt.complaint? a.logger), OfPass r := by
    intro r hr
    obtain ⟨t, -, ht⟩ := List.mem_filterMap.1 hr
    exact ofPass_complaint ht
  rcases heq : a.writeObjects (timestamp a.clock.second) (objects.map Prod.snd) with ⟨b, _ | e⟩
  · rw [heq] at hwrote
    have hflush : ∀ r ∈ b.flushComplaint?.toList, OfPass r := fun r hr =>
      b.ofPass_flushComplaint (Option.mem_toList.1 hr)
    rw [publish_of_none a heq]
    cases Sink.raised? (b.sink.flushFault b.sink.flushes) with
    | some e =>
      refine ⟨_, (congrArg (· ++ _) hwrote.log).trans (List.append_assoc _ _ _),
        List.forall_mem_append.2 ⟨hcomplaints, hflush⟩⟩
    | none =>
      refine ⟨_, (congrArg (· ++ _ ++ _) hwrote.log).trans
        (by rw [List.append_assoc, List.append_assoc]),
        List.forall_mem_append.2 ⟨hcomplaints, List.forall_mem_append.2
          ⟨hflush, List.forall_mem_singleton.2 (Or.inr (Or.inr rfl))⟩⟩⟩
  · rw [heq] at hwrote
    rw [publish_of_some a heq]
    exact ⟨_, hwrote.log, hcomplaints⟩

/-- **What a pass over the metrics logs.** -/
theorem log_publishMetrics :
    ∃ records, a.publishMetrics.1.log = a.log ++ records ∧ ∀ r ∈ records, OfPass r := by
  have hdropped : ∀ r ∈ a.assemble.1.dropped.map droppedRecord, OfPass r :=
    List.forall_mem_map.2 fun d _ => Or.inl ⟨rfl, rfl⟩
  have hbuild := a.buildSnapshot_fst
  rw [publishMetrics]
  rcases heq : a.buildSnapshot with ⟨b, e | objects⟩ <;> rw [heq] at hbuild <;>
    have hb : b = _ := hbuild
  · exact ⟨_, by rw [hb], hdropped⟩
  · obtain ⟨records, hlog, hrecords⟩ := log_publish b objects
    refine ⟨_, hlog.trans ?_, List.forall_mem_append.2 ⟨hdropped, hrecords⟩⟩
    rw [hb, List.append_assoc]

end

end Aggregator

/-! ## The emitter's own records -/

namespace Emitter

variable {τ : Type}

/-- The record of a pass that failed. -/
def failureRecord (f : Failure) : LogRecord :=
  ⟨Level.error, Logger.emitter, "Error publishing metrics: " ++ f.message, some f⟩

/-- The record of a pass that took these seconds, and left no pause. -/
def overrunRecord (e : Emitter τ) (seconds : τ) : LogRecord :=
  .plain Level.warning Logger.emitter
    ("Publish took " ++ e.written seconds ++ "s, longer than interval " ++ e.interval.shown ++ "s")

/-- Whether a record is the emitter's error about a pass that failed. -/
def reportsFailure (r : LogRecord) : Bool :=
  r.level == Level.error && r.logger == Logger.emitter &&
    "Error publishing metrics: ".toList.isPrefixOf r.message.toList

/-- Whether a record is a warning of the emitter. -/
def warnsOverrun (r : LogRecord) : Bool := r.level == Level.warning && r.logger == Logger.emitter

theorem reportsFailure_failureRecord (f : Failure) : reportsFailure (failureRecord f) = true := by
  simp [reportsFailure, failureRecord]

theorem not_reportsFailure_of_level {r : LogRecord} (h : r.level ≠ Level.error) :
    reportsFailure r = false := by
  simp [reportsFailure, h]

theorem not_warnsOverrun_of_level {r : LogRecord} (h : r.level ≠ Level.warning) :
    warnsOverrun r = false := by
  simp [warnsOverrun, h]

/-- **No record of a pass is one of the emitter's.** -/
theorem not_own_of_ofPass {r : LogRecord} (h : Aggregator.OfPass r) :
    reportsFailure r = false ∧ warnsOverrun r = false := by
  rcases h with ⟨hlevel, hlogger⟩ | ⟨hlevel, s, hmessage⟩ | hlevel
  · refine ⟨not_reportsFailure_of_level (by rw [hlevel]; decide), ?_⟩
    simp [warnsOverrun, hlogger, show Logger.grouping ≠ Logger.emitter by decide]
  · refine ⟨?_, not_warnsOverrun_of_level (by rw [hlevel]; decide)⟩
    -- the two wordings differ in their first letter
    have hprefix : "Error publishing metrics: ".toList.isPrefixOf r.message.toList = false := by
      rw [hmessage, String.toList_append]
      rfl
    rw [reportsFailure, hprefix, Bool.and_false]
  · exact ⟨not_reportsFailure_of_level (by rw [hlevel]; decide),
      not_warnsOverrun_of_level (by rw [hlevel]; decide)⟩

/-! ## What came between two emitters -/

/-- The second emitter is the first after it was stopped or not, after a number of passes that came
    through, events of the signal, failed passes, and overruns. -/
structure Did (e b : Emitter τ) (stopped : Bool) (passes : ℕ) (events : List (SignalEvent τ))
    (failures : List Failure) (overruns : List LogRecord) : Prop where
  interval : b.interval = e.interval
  written : b.written = e.written
  longest : b.longest = e.longest
  running : b.running = (e.running && !stopped)
  signalled : b.signalled = (e.signalled || stopped)
  passes : b.passes = e.passes + passes
  events : b.events = e.events ++ events
  reports : b.aggregator.log.filter reportsFailure =
    e.aggregator.log.filter reportsFailure ++ failures.map failureRecord
  warnings : b.aggregator.log.filter warnsOverrun =
    e.aggregator.log.filter warnsOverrun ++ overruns

section
variable {e b c : Emitter τ} {stopped stopped' : Bool} {passes passes' : ℕ}
variable {events events' : List (SignalEvent τ)} {failures failures' : List Failure}
variable {overruns overruns' : List LogRecord}

theorem Did.refl (e : Emitter τ) : Did e e false 0 [] [] [] :=
  ⟨rfl, rfl, rfl, (Bool.and_true _).symm, (Bool.or_false _).symm, rfl, (List.append_nil _).symm,
    (List.append_nil _).symm, (List.append_nil _).symm⟩

theorem Did.overrunRecord (h : Did e b stopped passes events failures overruns) (seconds : τ) :
    b.overrunRecord seconds = e.overrunRecord seconds := by
  rw [Emitter.overrunRecord, Emitter.overrunRecord, h.interval, h.written]

theorem Did.trans (h : Did e b stopped passes events failures overruns)
    (h' : Did b c stopped' passes' events' failures' overruns') :
    Did e c (stopped || stopped') (passes + passes') (events ++ events') (failures ++ failures')
      (overruns ++ overruns') where
  interval := h'.interval.trans h.interval
  written := h'.written.trans h.written
  longest := h'.longest.trans h.longest
  running := by rw [h'.running, h.running, Bool.not_or, Bool.and_assoc]
  signalled := by rw [h'.signalled, h.signalled, Bool.or_assoc]
  passes := by rw [h'.passes, h.passes, Nat.add_assoc]
  events := by rw [h'.events, h.events, List.append_assoc]
  reports := by rw [h'.reports, h.reports, List.map_append, List.append_assoc]
  warnings := by rw [h'.warnings, h.warnings, List.append_assoc]

theorem did_say (e : Emitter τ) {level : Int} {message : String} {failure : Option Failure}
    (hreports : [⟨level, Logger.emitter, message, failure⟩].filter reportsFailure =
      failures.map failureRecord)
    (hwarnings : [⟨level, Logger.emitter, message, failure⟩].filter warnsOverrun = overruns) :
    Did e (e.say level message failure) false 0 [] failures overruns :=
  { Did.refl e with
    reports := (List.filter_append _ _).trans (congrArg (_ ++ ·) hreports)
    warnings := (List.filter_append _ _).trans (congrArg (_ ++ ·) hwarnings) }

end

/-! ## The steps of a turn -/

/-- What a request to stop does to the signal, if there is one. -/
def setIf (asked : Bool) : List (SignalEvent τ) := if asked then [.set] else []

section
variable (e : Emitter τ)

theorem did_wait (seconds : τ) :
    Did e (e.signal (.wait seconds)) false 0 [.wait seconds] [] [] :=
  { Did.refl e with events := rfl }

theorem did_stop : Did e e.stop true 0 [.set] [] [] :=
  have hsaid : Did e (e.say Level.info "Stopping metrics emitter" none) false 0 [] [] [] :=
    e.did_say rfl rfl
  { hsaid with
    running := (Bool.and_false _).symm
    signalled := (Bool.or_true _).symm
    events := rfl }

theorem did_stopIf (asked : Bool) : Did e (e.stopIf asked) asked 0 (setIf asked) [] [] := by
  cases asked with
  | true => exact e.did_stop
  | false => exact .refl e

theorem did_start :
    Did { e with running := true, signalled := false } e.start false 0 [.clear] [] [] :=
  have hcleared : Did { e with running := true, signalled := false }
      ({ e with running := true }.signal .clear) false 0 [.clear] [] [] :=
    { Did.refl { e with running := true, signalled := false } with events := rfl }
  hcleared.trans (did_say _ rfl rfl)

theorem did_publish (passes : ℕ) :
    Did e { e with aggregator := e.aggregator.publishMetrics.1, passes := e.passes + passes }
      false passes [] [] [] := by
  obtain ⟨records, hlog, hrecords⟩ := e.aggregator.log_publishMetrics
  have hnone : ∀ p : LogRecord → Bool, (∀ r, Aggregator.OfPass r → p r = false) →
      e.aggregator.publishMetrics.1.log.filter p = e.aggregator.log.filter p ++ [] := by
    intro p hp
    have hrest : records.filter p = [] :=
      List.filter_eq_nil_iff.2 fun r hr => by simp [hp r (hrecords r hr)]
    rw [hlog, List.filter_append, hrest]
  exact { Did.refl e with
    passes := rfl
    reports := hnone _ fun r hr => (not_own_of_ofPass hr).1
    warnings := hnone _ fun r hr => (not_own_of_ofPass hr).2 }

variable [Add τ]

theorem did_advance (seconds : τ) : Did e (e.advance seconds) false 0 [] [] [] :=
  { Did.refl e with }

/-- **A pass that is not guarded** counts if it comes through. -/
theorem did_tick (t : Turn τ) :
    Did e (e.tick t).1 t.stopInPass (if (e.tick t).2.isNone then 1 else 0) (setIf t.stopInPass)
      [] [] := by
  have hbefore := (e.did_advance t.shift).trans ((e.advance t.shift).did_stopIf t.stopInPass)
  rw [tick]
  cases t.failure with
  | some f => exact hbefore
  | none =>
    have hpublish := ((e.advance t.shift).stopIf t.stopInPass).did_publish
    dsimp only
    rcases heq : ((e.advance t.shift).stopIf t.stopInPass).aggregator.publishMetrics with
      ⟨a, _ | f⟩ <;> rw [heq] at hpublish
    · simpa using hbefore.trans (hpublish 1)
    · simpa using hbefore.trans (hpublish 0)

/-- **A guarded pass** leaves one record of its failure, if it fails. -/
theorem did_pass (t : Turn τ) :
    Did e (e.pass t) t.stopInPass (if (e.tick t).2.isNone then 1 else 0) (setIf t.stopInPass)
      (e.tick t).2.toList [] := by
  have htick := e.did_tick t
  rw [pass]
  rcases heq : e.tick t with ⟨b, _ | f⟩ <;> rw [heq] at htick
  · exact htick
  · have hsaid : Did b (b.say Level.error ("Error publishing metrics: " ++ f.message) (some f))
        false 0 [] [f] [] :=
      b.did_say (List.filter_cons_of_pos (reportsFailure_failureRecord f)) rfl
    simpa using htick.trans hsaid

theorem wall_pass (t : Turn τ) : (e.pass t).wall = e.wall + t.shift := by
  have hstop : ((e.advance t.shift).stopIf t.stopInPass).wall = e.wall + t.shift := by
    cases t.stopInPass <;> rfl
  rw [pass, tick]
  cases t.failure with
  | some f => exact hstop
  | none =>
    dsimp only
    rcases ((e.advance t.shift).stopIf t.stopInPass).aggregator.publishMetrics with ⟨a, _ | f⟩
    · exact hstop
    · exact hstop

variable [OfNat τ 0] [Sub τ] [LT τ] [DecidableLT τ] {seconds began : τ} (t : Turn τ)

/-- Whether the emitter waits for what a pass that began at `began` left of the interval. -/
def waitsFor (seconds began : τ) : Bool :=
  decide (0 < pause seconds began e.wall) && !e.refuses (pause seconds began e.wall)

variable (seconds began)

/-- **A rest** asks the signal to wait for what is left, if anything is, and can be stopped while it
    waits; otherwise it leaves one warning. -/
theorem did_rest :
    let left := pause seconds began e.wall
    let stopped := e.waitsFor seconds began && t.stopInPause
    Did e (e.rest seconds began t).1 stopped 0
      (if 0 < left then .wait left :: setIf stopped else []) []
      (if 0 < left then [] else [e.overrunRecord (e.wall - began)]) := by
  intro left stopped
  by_cases hleft : 0 < left
  · have hwait := e.did_wait left
    rw [if_pos hleft, if_pos hleft]
    -- a refused wait is asked for all the same
    cases hrefuses : e.refuses left with
    | true =>
      have hrest : e.rest seconds began t = (e.signal (.wait left), some .pauseTooLong) :=
        (if_pos hleft).trans (if_pos hrefuses)
      have hstopped : stopped = false := by simp [stopped, left, waitsFor, hrefuses]
      rw [hrest, hstopped]
      exact hwait
    | false =>
      have hrest : e.rest seconds began t =
          (((e.signal (.wait left)).advance left).stopIf t.stopInPause, none) :=
        (if_pos hleft).trans (if_neg (by rw [hrefuses, Bool.not_eq_true]))
      have hstopped : stopped = t.stopInPause := by
        simp [stopped, left, waitsFor, hrefuses, hleft]
      rw [hrest, hstopped]
      exact (hwait.trans (did_advance _ left)).trans (did_stopIf _ t.stopInPause)
  · have hrest : e.rest seconds began t = (e.say Level.warning
        (e.overrunRecord (e.wall - began)).message none, none) := if_neg hleft
    have hstopped : stopped = false := by simp [stopped, left, waitsFor, hleft]
    rw [if_neg hleft, if_neg hleft, hrest, hstopped]
    exact e.did_say rfl rfl

theorem rest_snd :
    (e.rest seconds began t).2 =
      if 0 < pause seconds began e.wall ∧ e.refuses (pause seconds began e.wall) = true then
        some .pauseTooLong
      else none := by
  by_cases hpause : 0 < pause seconds began e.wall
  · cases hrefuses : e.refuses (pause seconds began e.wall) <;> simp [rest, hpause, hrefuses]
  · simp [rest, hpause]

end

end Emitter

end MetricDocs
