/-
  The instruments account for every write.

  What a sink was asked to write is told by its own count of writes, and what came of it by the
  failures that it has for these numbers.  The instruments show the same, over any run, whatever
  sinks there were and whatever failed.

  * `written` are the outcomes of the writes between two aggregators, `outcomes` those of a step of
    a run, and `passed?` is the number of objects of the pass that a step came through;
  * `Accounted a b faults pass`: the instruments counted these outcomes and this pass;
  * `accounted_publish` and `accounted_perform`: a pass, and a step;
  * `accounted_run`: a run, and `writes_accounted`: every run on a new aggregator.
-/
import MetricDocs.Proofs.Aggregator.Passes
import MetricDocs.Proofs.Aggregator.Accumulators

namespace MetricDocs.Aggregator

/-! ## What was written -/

/-- The outcomes of the writes that the sink counted between two aggregators. -/
def written (a b : Aggregator) : List (Option SinkFault) :=
  (List.range' a.sink.writes (b.sink.writes - a.sink.writes)).map a.sink.writeFault

/-- The outcomes of the writes of a step; a sink is put in place of another without a write. -/
def outcomes (step : Aggregator × Command) : List (Option SinkFault) :=
  match step.2 with
  | .replaceSink _ => []
  | c => written step.1 (step.1.perform c).1

/-- The number of objects of the pass that a step ran, if it came through. -/
def passed? (step : Aggregator × Command) : Option ℕ :=
  match (step.1.perform step.2).2 with
  | .error _ => none
  | .ok _ =>
    match step.2 with
    | .publish objects => some objects.length
    | .publishMetrics => step.1.buildSnapshot.2.toOption.map List.length
    | .close => if step.1.closed then none else step.1.buildSnapshot.2.toOption.map List.length
    | _ => none

theorem written_self (a : Aggregator) : written a a = [] := by
  rw [written, Nat.sub_self]
  rfl

theorem Wrote.written_eq {a b : Aggregator} {ts : List Attempt} (h : Wrote a b ts) :
    written a b = ts.map Attempt.fault := by
  rw [written, h.writes, Nat.add_sub_cancel_left, h.faults]

/-! ## Accounts -/

/-- The instruments counted the outcomes of writes, and a pass with its number of objects. -/
structure Accounted (a b : Aggregator) (faults : List (Option SinkFault)) (pass : Option ℕ) :
    Prop where
  family : b.family = a.family
  out : b.out.length = a.out.length + faults.countP Option.isNone
  shows : ∀ name x, a.family = .named name → a.registry.Shows a.family x → ∃ durations,
    b.registry.Shows a.family ⟨x.documents + faults.countP Option.isNone,
      x.writeErrors + faults.countP Sink.reported, durations, pass.elim x.objects Nat.cast⟩ ∧
    durations.count = x.durations.count + pass.toList.length

section
variable {a b : Aggregator}

theorem Accounted.of_same (hfamily : b.family = a.family) (hout : b.out = a.out)
    (hregistry : b.registry = a.registry) : Accounted a b [] none :=
  ⟨hfamily, congrArg List.length hout, fun _ x _ hx => ⟨x.durations, hregistry ▸ hx, rfl⟩⟩

/-- **Writes without a pass are accounted for.** -/
theorem Wrote.accounted {ts : List Attempt} (h : Wrote a b ts) :
    Accounted a b (written a b) none := by
  have hnone : (ts.map Attempt.fault).countP Option.isNone = ts.countP (·.fault.isNone) :=
    List.countP_map
  have hreported : (ts.map Attempt.fault).countP Sink.reported =
      ts.countP fun t => Sink.reported t.fault := List.countP_map
  rw [h.written_eq]
  refine ⟨h.family, ?_, fun name x hfamily hx => ⟨x.durations, ?_, rfl⟩⟩
  · rw [h.out, List.length_append, length_accepted, hnone]
  · rw [hnone, hreported]
    exact h.shows name x hfamily hx

theorem Accounted.congr {a' : Aggregator} {faults : List (Option SinkFault)} {pass : Option ℕ}
    (h : Accounted a' b faults pass) (hfamily : a'.family = a.family) (hout : a'.out = a.out)
    (hregistry : a'.registry = a.registry) : Accounted a b faults pass := by
  refine ⟨h.family.trans hfamily, hout ▸ h.out, fun name x hname hx => ?_⟩
  rw [← hfamily, ← hregistry] at hx
  rw [← hfamily]
  exact h.shows name x (hfamily.trans hname) hx

end

/-! ## Passes -/

/-- **A pass is accounted for**: all its writes, and the pass itself iff it came through. -/
theorem accounted_publish (a : Aggregator) (objects : Fields) (hbefore : a.clock.mono.isFinite)
    (hafter : (a.publish objects).1.clock.mono.isFinite)
    (hcount : (a.publish objects).2 = none → objects.length < 2 ^ 53) :
    Accounted a (a.publish objects).1 (written a (a.publish objects).1)
      (if (a.publish objects).2.isNone then some objects.length else none) := by
  obtain ⟨⟨ts, hwrote, -⟩, -⟩ :=
    wrote_writeObjects a (timestamp a.clock.second) (objects.map Prod.snd)
  rcases heq : a.writeObjects (timestamp a.clock.second) (objects.map Prod.snd) with ⟨b, _ | e⟩
  · rw [heq] at hwrote
    have haccounted := hwrote.accounted
    have hpublish := a.publish_of_none heq
    cases hraised : Sink.raised? (b.sink.flushFault b.sink.flushes) with
    | some e =>
      rw [hpublish, hraised]
      exact ⟨haccounted.family, haccounted.out, haccounted.shows⟩
    | none =>
      rw [hraised] at hpublish
      simp only at hpublish
      rw [hpublish] at hafter hcount ⊢
      refine ⟨haccounted.family, haccounted.out, fun name x hfamily hx => ?_⟩
      -- the pass came to its end, so it sets the gauge and is observed once
      have hlarge : objects.length < 2 ^ 1023 := by
        refine lt_of_lt_of_le (hcount rfl) ?_
        exact pow_le_pow_right₀ one_le_two (by norm_num)
      obtain ⟨durations, hshows, hdurations⟩ := haccounted.shows name x hfamily hx
      have hfinished := shows_finishPass b.flushed (haccounted.family.trans hfamily)
        (haccounted.family.symm ▸ hshows) a.clock.mono hlarge
      refine ⟨_, haccounted.family ▸ hfinished, ?_⟩
      have hobserved := Histogram.count_observe hshows.formed (Decimal.beq_self_sub hafter hbefore)
      exact hobserved.trans (congrArg (· + 1) hdurations)
  · rw [heq] at hwrote
    rw [a.publish_of_some heq]
    exact hwrote.accounted

/-- **A pass over the metrics is accounted for.** -/
theorem accounted_publishMetrics (a : Aggregator) (hbefore : a.clock.mono.isFinite)
    (hafter : a.publishMetrics.1.clock.mono.isFinite)
    (hcount : a.publishMetrics.2 = none →
      ∀ objects, a.buildSnapshot.2 = .ok objects → objects.length < 2 ^ 53) :
    Accounted a a.publishMetrics.1 (written a a.publishMetrics.1)
      (if a.publishMetrics.2.isNone then a.buildSnapshot.2.toOption.map List.length else none) := by
  have hbuild := a.buildSnapshot_fst
  rw [publishMetrics] at hafter hcount ⊢
  -- Building the objects only logs, so a pass is accounted for from before it was built.
  rcases heq : a.buildSnapshot with ⟨b, e | objects⟩
  · rw [heq] at hbuild
    subst hbuild
    have hwritten := written_self a
    rw [written] at hwritten
    simp only [written, hwritten]
    exact .of_same rfl rfl rfl
  · rw [heq] at hbuild hafter hcount
    have hb : b = _ := hbuild
    have hpublish := accounted_publish b objects (by rw [hb]; exact hbefore) hafter
      fun h => hcount h objects rfl
    subst hb
    exact hpublish.congr rfl rfl rfl

/-! ## Steps -/

theorem passed?_publish (a : Aggregator) (objects : Fields) : passed? (a, .publish objects) =
    if (a.publish objects).2.isNone then some objects.length else none := by
  simp only [passed?, perform]
  rcases a.publish objects with ⟨b, _ | e⟩ <;> rfl

theorem passed?_publishMetrics (a : Aggregator) : passed? (a, .publishMetrics) =
    if a.publishMetrics.2.isNone then a.buildSnapshot.2.toOption.map List.length else none := by
  simp only [passed?, perform]
  rcases a.publishMetrics with ⟨b, _ | e⟩ <;> rfl

/-- The aggregator that the final pass runs on. -/
def closing (a : Aggregator) : Aggregator :=
  { a with closed := true }.say Level.info "Closing stdout metrics, publishing final snapshot"

theorem close_of_open {a : Aggregator} (h : a.closed = false) :
    a.close = a.closing.publishMetrics := by
  rw [close, h]
  rfl

theorem buildSnapshot_closing (a : Aggregator) : a.closing.buildSnapshot.2 = a.buildSnapshot.2 := by
  unfold buildSnapshot
  rw [show a.closing.assemble = a.assemble from rfl]
  rcases a.assemble with ⟨s, _ | e⟩ <;> rfl

theorem passed?_close {a : Aggregator} (h : a.closed = false) : passed? (a, .close) =
    if a.closing.publishMetrics.2.isNone then a.closing.buildSnapshot.2.toOption.map List.length
    else none := by
  simp only [passed?, perform, close_of_open h, buildSnapshot_closing, h]
  rcases a.closing.publishMetrics with ⟨b, _ | e⟩ <;> rfl

theorem accounted_of_same {a : Aggregator} {c : Command} (hsink : (a.perform c).1.sink = a.sink)
    (hfamily : (a.perform c).1.family = a.family) (hout : (a.perform c).1.out = a.out)
    (hregistry : (a.perform c).1.registry = a.registry) (hpass : passed? (a, c) = none) :
    Accounted a (a.perform c).1 (outcomes (a, c)) (passed? (a, c)) := by
  have houtcomes : outcomes (a, c) = [] := by
    cases c with
    | replaceSink s => rfl
    | _ =>
      simp only [outcomes, written, hsink, Nat.sub_self]
      rfl
  rw [houtcomes, hpass]
  exact .of_same hfamily hout hregistry

/-- **Every step is accounted for**, whether it fails or not. -/
theorem accounted_perform (a : Aggregator) (c : Command) (hbefore : a.clock.mono.isFinite)
    (hafter : (a.perform c).1.clock.mono.isFinite)
    (hcount : ∀ n, passed? (a, c) = some n → n < 2 ^ 53) :
    Accounted a (a.perform c).1 (outcomes (a, c)) (passed? (a, c)) := by
  -- only writes and passes change what is accounted for
  cases c with
  | replaceSink s => exact .of_same rfl rfl rfl
  | store c =>
    refine accounted_of_same rfl rfl rfl rfl ?_
    rw [passed?, perform_store]
    cases (a.store.perform c).2.2 <;> rfl
  | buildSnapshot =>
    have hfst : (a.perform .buildSnapshot).1 = a.buildSnapshot.1 := rfl
    rw [buildSnapshot_fst] at hfst
    refine accounted_of_same (by rw [hfst]) (by rw [hfst]) (by rw [hfst]) (by rw [hfst]) ?_
    simp only [passed?, perform]
    cases a.buildSnapshot.2 <;> rfl
  | systemStats =>
    refine accounted_of_same rfl rfl rfl rfl ?_
    simp only [passed?, perform]
    cases a.systemStats <;> rfl
  | write time object =>
    have hpass : passed? (a, .write time object) = none := by
      simp only [passed?, perform]
      rcases a.write time object with ⟨b, _ | e⟩ <;> rfl
    rw [hpass, outcomes]
    simp only [perform, done_fst]
    exact (wrote_writeAt a _ object).1.accounted
  | publish objects =>
    rw [passed?_publish] at hcount ⊢
    simp only [outcomes, perform, done_fst] at hafter ⊢
    exact accounted_publish a objects hbefore hafter fun h => hcount _ (by rw [h]; rfl)
  | publishMetrics =>
    rw [passed?_publishMetrics] at hcount ⊢
    simp only [outcomes, perform, done_fst] at hafter ⊢
    exact accounted_publishMetrics a hbefore hafter fun h objects hobjects =>
      hcount _ (by rw [h, hobjects]; rfl)
  | close =>
    cases hclosed : a.closed with
    | true =>
      have hclose : (a.perform .close).1 = a := by
        simp only [perform, close, hclosed, if_true, done]
      refine accounted_of_same (by rw [hclose]) (by rw [hclose]) (by rw [hclose]) (by rw [hclose]) ?_
      simp only [passed?, perform, close, hclosed, if_true, done]
    | false =>
      rw [passed?_close hclosed] at hcount ⊢
      simp only [outcomes, perform, done_fst, close_of_open hclosed] at hafter ⊢
      exact (accounted_publishMetrics a.closing hbefore hafter fun h objects hobjects =>
        hcount _ (by rw [h, hobjects]; rfl)).congr rfl rfl rfl
  | setClock d | setLogger name | samples | exposition | staticFields =>
    exact accounted_of_same rfl rfl rfl rfl rfl

/-! ## Runs -/

theorem filterMap_cons_toList {α β : Type} (f : α → Option β) (e : α) (l : List α) :
    (e :: l).filterMap f = (f e).toList ++ l.filterMap f := by
  rw [List.filterMap_cons]
  cases f e <;> rfl

theorem getLast?_elim_append {α β : Type} (o : Option α) (l : List α) (y : β) (f : α → β) :
    (o.toList ++ l).getLast?.elim y f = l.getLast?.elim (o.elim y f) f := by
  cases o with
  | none => rfl
  | some e =>
    rw [List.getLast?_append]
    cases l.getLast? <;> rfl

/-- **Every run is accounted for.** -/
theorem accounted_run (a : Aggregator) (commands : List Command)
    (hclock : ∀ step ∈ a.steps commands,
      step.1.clock.mono.isFinite ∧ (step.1.perform step.2).1.clock.mono.isFinite)
    (hcount : ∀ n ∈ (a.steps commands).filterMap passed?, n < 2 ^ 53) {name : String}
    {x : Readings} (hfamily : a.family = .named name) (hshows : a.registry.Shows a.family x) :
    let outcomes := (a.steps commands).flatMap outcomes
    let passes := (a.steps commands).filterMap passed?
    (a.run commands).out.length = a.out.length + outcomes.countP Option.isNone ∧
    ∃ durations, (a.run commands).registry.Shows a.family
        ⟨x.documents + outcomes.countP Option.isNone,
          x.writeErrors + outcomes.countP Sink.reported, durations,
          passes.getLast?.elim x.objects Nat.cast⟩ ∧
      durations.count = x.durations.count + passes.length := by
  -- The readings vary with the aggregator: each step starts from those that the one before left.
  induction commands generalizing a x with
  | nil => exact ⟨rfl, x.durations, hshows, rfl⟩
  | cons c commands ih =>
    obtain ⟨⟨hbefore, hafter⟩, hclock⟩ := List.forall_mem_cons.1 hclock
    have hpass : ∀ n, passed? (a, c) = some n → n < 2 ^ 53 := fun n hn =>
      hcount n (List.mem_filterMap.2 ⟨(a, c), List.mem_cons_self, hn⟩)
    have hrest : ∀ n ∈ ((a.perform c).1.steps commands).filterMap passed?, n < 2 ^ 53 := by
      intro n hn
      obtain ⟨step, hstep, hn⟩ := List.mem_filterMap.1 hn
      exact hcount n (List.mem_filterMap.2 ⟨step, List.mem_cons_of_mem _ hstep, hn⟩)
    have hstep := accounted_perform a c hbefore hafter hpass
    obtain ⟨durations, hb, hdurations⟩ := hstep.shows name x hfamily hshows
    rw [← hstep.family] at hb
    obtain ⟨hout, durations', hshows', hdurations'⟩ :=
      ih _ hclock hrest (hstep.family.trans hfamily) hb
    simp only [steps, run_cons, List.flatMap_cons, List.countP_append, filterMap_cons_toList,
      List.length_append, getLast?_elim_append]
    rw [hstep.family] at hshows'
    refine ⟨by rw [hout, hstep.out, Nat.add_assoc], durations', ?_, ?_⟩
    · simpa only [Nat.add_assoc] using hshows'
    · rw [hdurations', hdurations, Nat.add_assoc]

/-! ## The main theorem -/

/-- **Self-monitoring accounts for every write.**  After every run on a new aggregator whose clock
    is finite before and after every step, with sinks that fail in any way, sinks put in place of
    others and steps that fail: the documents counted are the writes that all sinks took, the write
    errors counted are those that failed with a failure that the sink reports about itself, the
    durations observed are as many as the passes that came through, and the number of objects is
    that of the last of these passes, zero before the first. -/
theorem writes_accounted (statics name : String) (sink : Sink) (clock : Clock)
    (commands : List Command) :
    let a := start statics (.named name) sink clock
    let outcomes := (a.steps commands).flatMap outcomes
    let passes := (a.steps commands).filterMap passed?
    let b := a.run commands
    (∀ step ∈ a.steps commands,
      step.1.clock.mono.isFinite ∧ (step.1.perform step.2).1.clock.mono.isFinite) →
    (∀ n ∈ passes, n < 2 ^ 53) →
    b.out.length = outcomes.countP Option.isNone ∧
    ∃ durations, b.registry.Shows (.named name)
        ⟨outcomes.countP Option.isNone, outcomes.countP Sink.reported, durations,
          (passes.getLast?.getD 0 : ℕ)⟩ ∧
      durations.count = passes.length := by
  intro a outcomes passes b hclock hcount
  obtain ⟨hout, durations, hshows, hdurations⟩ :=
    accounted_run a commands hclock hcount rfl (Registry.shows_ofFamily name)
  refine ⟨hout.trans (Nat.zero_add _), durations, ?_, hdurations.trans (Nat.zero_add _)⟩
  have hlast : passes.getLast?.elim 0 Nat.cast = ((passes.getLast?.getD 0 : ℕ) : ℤ) := by
    cases passes.getLast? <;> rfl
  rw [← hlast]
  simp only [Readings.zero, Nat.zero_add] at hshows
  exact hshows

/-- A sink that refuses its first write. -/
def refusing : Sink := ⟨Sink.faultAt [(0, ⟨.os, "disk full"⟩)], fun _ => none, 0.0, 0, 0⟩

/-- A write, a pass, and a pass that a new sink breaks at its second write. -/
def brokenPasses : List Command :=
  [.write none (.mapping []), .publish bareObjects,
    .replaceSink ⟨Sink.faultAt [(1, ⟨.runtime, "gone"⟩)], fun _ => none, 0.0, 0, 0⟩,
    .publish bareObjects]

theorem brokenPasses_accounted :
    ((start "\x7b\x7d" (.named "") refusing .start).steps brokenPasses).filterMap passed? = [3] ∧
    ∃ durations, ((start "\x7b\x7d" (.named "") refusing .start).run brokenPasses).registry.Shows
        (.named "") ⟨4, 1, durations, 3⟩ ∧ durations.count = 1 := by
  have hclock : ∀ step ∈ (start "\x7b\x7d" (.named "") refusing .start).steps brokenPasses,
      step.1.clock.mono.isFinite ∧ (step.1.perform step.2).1.clock.mono.isFinite := by
    decide +kernel
  have hpasses : ((start "\x7b\x7d" (.named "") refusing .start).steps brokenPasses).filterMap
      passed? = [3] := by decide +kernel
  have haccounted := (writes_accounted "\x7b\x7d" "" refusing .start brokenPasses hclock
    (by rw [hpasses]; decide)).2
  have houtcomes : (((start "\x7b\x7d" (.named "") refusing .start).steps brokenPasses).flatMap
        outcomes).countP Option.isNone = 4 ∧
      (((start "\x7b\x7d" (.named "") refusing .start).steps brokenPasses).flatMap
        outcomes).countP Sink.reported = 1 := by
    decide +kernel
  rw [houtcomes.1, houtcomes.2, hpasses] at haccounted
  exact ⟨hpasses, haccounted⟩

end MetricDocs.Aggregator
