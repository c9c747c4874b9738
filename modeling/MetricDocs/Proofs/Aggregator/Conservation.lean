/-
  Nothing is lost in a flush.

  A flush answers what a listing of the counters would have answered, and leaves zeros.  So a
  counter that is only added to and subtracted from is accounted for at any time: what the flushes
  reported of it and what it holds are what it was given.

  * `flushCounters_perform` and `flushTimers_perform`: a flush answers the listing, clears what it
    lists and keeps the rest;
  * `reported`, `incremented` and `decremented`: what a command reports of a counter, adds to it and
    subtracts from it;
  * `conserved_perform` and `conserved_run`: one command, and a run;
  * `flush_conserves`: both, for every run on a new aggregator.
-/
import MetricDocs.Proofs.Aggregator.Accumulators

namespace MetricDocs

theorem Handle.operand_of_counter (h : Handle) (hkind : h.kind = .counter) (c : Change)
    (argument : Value) : h.operand c argument = argument.toWhole := by
  rw [operand, hkind, if_neg fun htimer => MetricKind.noConfusion htimer.1]

namespace StoreCommand

/-- What a command adds to the counter at a path; a refused argument adds nothing. -/
def incremented (path : String) : StoreCommand → ℤ
  | .update h .add argument =>
    if h.kind = .counter ∧ h.path = path then argument.toWhole.toOption.getD 0 else 0
  | .addTimes h argument times =>
    if h.kind = .counter ∧ h.path = path then times * argument.toWhole.toOption.getD 0 else 0
  | _ => 0

/-- What a command subtracts from the counter at a path; a refused argument subtracts nothing. -/
def decremented (path : String) : StoreCommand → ℤ
  | .update h .subtract argument =>
    if h.kind = .counter ∧ h.path = path then argument.toWhole.toOption.getD 0 else 0
  | _ => 0

/-- Whether a command sets a metric to a given value. -/
def replaces : StoreCommand → Bool
  | .update _ .replace _ => true
  | _ => false

/-- Whether a command leaves the path to its counter, and does not set it to a given value. -/
def onlyCounts (path : String) (c : StoreCommand) : Bool :=
  !c.addresses .gauge path && !(c.replaces && c.addresses .counter path)

theorem accumulate_counter {c : StoreCommand} {path : String} (hc : c.onlyCounts path) (n : ℤ)
    (hflush : c ≠ .flushCounters) :
    (if c.concerns .counter path then c.accumulate n else n) =
      n + c.incremented path - c.decremented path := by
  cases c with
  | touch h | same h => simp [accumulate, incremented, decremented]
  | update h change argument =>
    simp only [concerns, addresses, handle?, Option.any_some, flushes, Bool.or_false,
      decide_eq_true_eq, accumulate]
    by_cases hpath : h.kind = .counter ∧ h.path = path
    · cases change with
      | add | subtract =>
        simp only [incremented, decremented, if_pos hpath, h.operand_of_counter hpath.1]
        cases argument.toWhole <;> simp [Change.apply, Except.toOption]
      | replace => simp [onlyCounts, replaces, addresses, handle?, hpath] at hc
    · cases change <;> simp [incremented, decremented, hpath]
  | addTimes h argument times =>
    simp only [concerns, addresses, handle?, Option.any_some, flushes, Bool.or_false,
      decide_eq_true_eq, accumulate, incremented, decremented]
    split_ifs with hpath
    · rw [h.operand_of_counter hpath.1]
      cases argument.toWhole <;> simp [Except.toOption]
    · simp
  | counters | timers => simp [accumulate, incremented, decremented]
  | flushCounters => exact absurd rfl hflush
  | flushTimers => simp [concerns, addresses, handle?, flushes, incremented, decremented]

end StoreCommand

namespace Aggregator

/-! ## Flushes -/

/-- **A flush of the counters and gauges answers their listing**, clears them and keeps the
    timers. -/
theorem flushCounters_perform {a : Aggregator} (h : a.store.Distinct) :
    (a.perform (.store .flushCounters)).2 = .ok (.store (.entries a.store.counterSnapshot)) ∧
      (a.perform (.store .flushCounters)).1.store =
        { a.store with counters := a.store.counters.cleared, gauges := a.store.gauges.cleared } :=
  ⟨congrArg (fun t => Except.ok (Reply.store (.entries t))) (Store.flushCounters_snd h),
    a.store.flushCounters_fst⟩

/-- **A flush of the timers answers their listing**, clears them and keeps the rest. -/
theorem flushTimers_perform {a : Aggregator} (h : a.store.Distinct) :
    (a.perform (.store .flushTimers)).2 = .ok (.store (.entries a.store.timerSnapshot)) ∧
      (a.perform (.store .flushTimers)).1.store =
        { a.store with timers := a.store.timers.cleared } :=
  ⟨congrArg (fun t => Except.ok (Reply.store (.entries t))) (Store.flushTimers_snd h),
    a.store.flushTimers_fst⟩

/-! ## Accounts -/

/-- What the answer to a flush of the counters reports for a path, zero if it is no such answer. -/
def reported (path : String) (step : Aggregator × Command) : ℤ :=
  match step.2, (step.1.perform step.2).2 with
  | .store .flushCounters, .ok (.store (.entries report)) => Table.value report path
  | _, _ => 0

section
variable {a : Aggregator} {path : String}

theorem reported_flushCounters (h : a.store.Distinct) (hgauge : path ∉ a.store.gauges.paths) :
    reported path (a, .store .flushCounters) = a.store.counters.value path := by
  simp only [reported, (flushCounters_perform h).1, Store.counterSnapshot]
  have hgauges : a.store.gauges.paths.Nodup := h .gauge
  rw [Table.value_overlay hgauges, if_neg hgauge]

theorem notMem_gauges_perform (hgauge : path ∉ a.store.gauges.paths) {c : Command}
    (hc : ∀ c', c = .store c' → c'.onlyCounts path) :
    path ∉ (a.perform c).1.store.gauges.paths := by
  cases c with
  | store c' =>
    have haddress : c'.addresses .gauge path = false := by
      have hcount := hc c' rfl
      simp only [StoreCommand.onlyCounts, Bool.and_eq_true, Bool.not_eq_true'] at hcount
      exact hcount.1
    have hpaths : (a.store.perform c').1.gauges.paths = _ := a.store.paths_perform c' .gauge
    rw [perform_store, hpaths]
    cases hh : c'.handle? with
    | none => exact hgauge
    | some h =>
      simp only [StoreCommand.addresses, hh, Option.any_some, decide_eq_false_iff_not] at haddress
      simp only
      split_ifs with hnew
      · rw [List.mem_append, List.mem_singleton, not_or]
        exact ⟨hgauge, fun hp => haddress ⟨hnew.1, hp.symm⟩⟩
      · exact hgauge
  | _ => rwa [(sameSource_perform a (by simp)).store]

/-- **One command keeps the account of a counter** that is only added to and subtracted from. -/
theorem conserved_perform (h : a.store.Distinct) (hgauge : path ∉ a.store.gauges.paths)
    {c : StoreCommand} (hc : c.onlyCounts path) :
    reported path (a, .store c) + (a.perform (.store c)).1.store.value ⟨.counter, path, []⟩ =
      a.store.value ⟨.counter, path, []⟩ + c.incremented path - c.decremented path := by
  by_cases hflush : c = .flushCounters
  · subst hflush
    rw [reported_flushCounters h hgauge, (flushCounters_perform h).2]
    simp [Store.value, Store.table, Table.value_cleared, StoreCommand.incremented,
      StoreCommand.decremented]
  · have hreported : reported path (a, .store c) = 0 := by
      cases c with
      | flushCounters => exact absurd rfl hflush
      | _ => rfl
    rw [hreported, zero_add, perform_store, Store.value_perform]
    exact StoreCommand.accumulate_counter hc _ hflush

/-- **A run keeps the account of a counter** that is only added to and subtracted from. -/
theorem conserved_run (h : a.store.Distinct) (hgauge : path ∉ a.store.gauges.paths)
    {commands : List Command} (hc : ∀ c, .store c ∈ commands → c.onlyCounts path) :
    ((a.steps commands).map (reported path)).sum +
        (a.run commands).store.value ⟨.counter, path, []⟩ =
      a.store.value ⟨.counter, path, []⟩ +
        ((commands.filterMap Command.store?).map (·.incremented path)).sum -
        ((commands.filterMap Command.store?).map (·.decremented path)).sum := by
  induction commands generalizing a with
  | nil => simp [steps, run]
  | cons c commands ih =>
    have hrest := ih (distinct_perform h c)
      (notMem_gauges_perform hgauge fun c' h' => hc c' (h' ▸ List.mem_cons_self))
      fun c' h' => hc c' (List.mem_cons_of_mem _ h')
    rw [steps, List.map_cons, List.sum_cons, run_cons, add_assoc, hrest]
    cases c with
    | store c' =>
      have hstep := conserved_perform h hgauge (hc c' List.mem_cons_self)
      have hasked : (Command.store c' :: commands).filterMap Command.store? =
          c' :: commands.filterMap Command.store? := rfl
      rw [hasked, List.map_cons, List.map_cons, List.sum_cons, List.sum_cons]
      linarith
    | _ =>
      rw [(sameSource_perform a (by simp)).store, List.filterMap_cons_none rfl]
      simp [reported]

end

/-! ## The main theorem -/

/-- **A flush is a listing that leaves zeros, and conserves counts.**  After every run on a new
    aggregator, a flush of the counters answers what a listing of them would: the counters in their
    order, then the paths that only gauges have in theirs, the value being that of the gauge
    wherever there is one.  A listing after the flush has the same paths in the same order, all
    zero, and the timers are as before; and so for the timers.  Where a path is no gauge's and its
    counter is never set, what all flushes of the run reported and what the counter holds come to
    what was added to it less what was subtracted. -/
theorem flush_conserves (statics : String) (family : Family) (sink : Sink) (clock : Clock)
    (commands : List Command) :
    let a := (start statics family sink clock).run commands
    let asked := commands.filterMap Command.store?
    let counters := (a.store.counters.paths ++
      a.store.gauges.paths.filter (· ∉ a.store.counters.paths)).map fun p =>
        (p, if p ∈ a.store.gauges.paths then a.store.gauges.value p else a.store.counters.value p)
    let timers := a.store.timers.paths.map fun p => (p, a.store.timers.value p)
    let b := (a.perform (.store .flushCounters)).1
    let c := (a.perform (.store .flushTimers)).1
    ((a.perform (.store .counters)).2 = .ok (.store (.entries counters)) ∧
      (a.perform (.store .flushCounters)).2 = .ok (.store (.entries counters)) ∧
      (b.perform (.store .counters)).2 =
        .ok (.store (.entries (counters.map fun e => (e.1, 0)))) ∧
      b.store.timers = a.store.timers) ∧
    ((a.perform (.store .timers)).2 = .ok (.store (.entries timers)) ∧
      (a.perform (.store .flushTimers)).2 = .ok (.store (.entries timers)) ∧
      (c.perform (.store .timers)).2 = .ok (.store (.entries (timers.map fun e => (e.1, 0)))) ∧
      c.store.counters = a.store.counters ∧ c.store.gauges = a.store.gauges) ∧
    ∀ path, (∀ c ∈ asked, c.onlyCounts path) →
      (((start statics family sink clock).steps commands).map (reported path)).sum +
          a.store.value ⟨.counter, path, []⟩ =
        (asked.map (·.incremented path)).sum - (asked.map (·.decremented path)).sum := by
  intro a asked counters timers b c
  have hdistinct : a.store.Distinct := distinct_run Store.distinct_empty commands
  have hcounters : a.store.counterSnapshot = counters := Store.counterSnapshot_eq hdistinct
  have htimers : a.store.timerSnapshot = timers := Table.eq_map_value (hdistinct .timer)
  have hanswer {t u : Table} (h : t = u) :
      (Except.ok (Reply.store (.entries t)) : Except Failure Reply) =
        .ok (.store (.entries u)) := by rw [h]
  refine ⟨⟨hanswer hcounters, ?_, hanswer ?_, ?_⟩, ⟨hanswer htimers, ?_, hanswer ?_, ?_, ?_⟩,
    fun path hc => ?_⟩
  · rw [(flushCounters_perform hdistinct).1, hcounters]
  · rw [← hcounters]
    exact a.store.counterSnapshot_flushCounters
  · rw [(flushCounters_perform hdistinct).2]
  · rw [(flushTimers_perform hdistinct).1, htimers]
  · rw [(flushTimers_perform hdistinct).2, ← htimers]
    rfl
  · rw [(flushTimers_perform hdistinct).2]
  · rw [(flushTimers_perform hdistinct).2]
  · have hrun := @conserved_run (start statics family sink clock) path Store.distinct_empty
      List.not_mem_nil commands fun c hmem => hc c (List.mem_filterMap.2 ⟨_, hmem, rfl⟩)
    rw [hrun]
    have hzero : (start statics family sink clock).store.value ⟨.counter, path, []⟩ = 0 := rfl
    rw [hzero, zero_add]

/-- A counter that is flushed between five added and two subtracted. -/
def countedTwice : List Command :=
  [.store (.update ⟨.counter, "input.read", []⟩ .add (.int 5)), .store .flushCounters,
    .store (.update ⟨.counter, "input.read", []⟩ .subtract (.int 2))]

theorem countedTwice_conserves :
    (∀ c ∈ countedTwice.filterMap Command.store?, c.onlyCounts "input.read") ∧
    (((start "" (.named "") .willing .start).steps countedTwice).map
          (reported "input.read")).sum +
        ((start "" (.named "") .willing .start).run countedTwice).store.value
          ⟨.counter, "input.read", []⟩ = 5 - 2 :=
  have hcounts : ∀ c ∈ countedTwice.filterMap Command.store?, c.onlyCounts "input.read" := by
    decide
  ⟨hcounts, (flush_conserves "" (.named "") .willing .start countedTwice).2.2 "input.read" hcounts⟩

end Aggregator

end MetricDocs
