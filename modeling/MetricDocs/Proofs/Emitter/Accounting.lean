/-
  The accounts of an emitter's run, in exact arithmetic.

  * `t.pauses seconds` says whether a turn leaves a pause, `t.refused longest seconds` whether that is
    longer than the signal waits for, and `t.stops longest seconds` whether a stop is asked for in the
    turn; `t.signals longest seconds` is what it does to the signal;
  * `e.through turns` is the emitter after turns, whether it is stopped or not, and
    `e.outcomes turns` how their passes end;
  * `did_turn` and `did_through`: what one turn does, and what a list of turns does of which only the
    last may end the run;
  * `loop_eq_through`: the loop runs all turns up to the first that ends it, and no other;
  * `run_accounted`: the whole run;
  * `run_of_beyondFloat`: a run over an interval beyond all numbers;
  * `tooLong_ends_run`: runs that are ended by their intervals.
-/
import Mathlib.Algebra.Group.Basic
import Mathlib.Order.Defs.LinearOrder
import MetricDocs.Proofs.Emitter.Turns

namespace MetricDocs

variable {τ : Type} [AddCommGroup τ] [LinearOrder τ]

/-! ## Turns -/

namespace Turn

variable (longest : Option τ) (seconds : τ) (t : Turn τ)

/-- Whether the pass of a turn is shorter than the interval. -/
def pauses : Bool := decide (0 < seconds - t.shift)

/-- Whether the pause of a turn is longer than the signal waits for.  A signal that was set in the pass
    does not wait at all. -/
def refused : Bool :=
  t.pauses seconds && !t.stopInPass && longest.any fun longest => longest < seconds - t.shift

/-- Whether a stop is asked for in a turn; there is no asking in a pause that does not come. -/
def stops : Bool :=
  t.stopInPass || t.pauses seconds && !t.refused longest seconds && t.stopInPause

/-- Whether a turn is the last one of a run. -/
def ends : Bool := t.stops longest seconds || t.refused longest seconds

/-- The failure of a turn. -/
def failure? : Option Failure := if t.refused longest seconds then some .pauseTooLong else none

/-- What a turn does to the stop signal. -/
def signals : List (SignalEvent τ) :=
  Emitter.setIf t.stopInPass ++
    if t.pauses seconds then
      .wait (seconds - t.shift) :: Emitter.setIf (!t.refused longest seconds && t.stopInPause)
    else []

variable {longest seconds t}

theorem stops_of_refused (h : t.refused longest seconds = true) :
    t.stops longest seconds = false := by
  have hpass : t.stopInPass = false := by
    simp only [refused, Bool.and_eq_true, Bool.not_eq_true'] at h
    exact h.1.2
  rw [stops, h, hpass, Bool.not_true, Bool.and_false, Bool.false_and, Bool.or_false]

/-- **The last turn of a run** is asked to stop, or its pause is refused, and never both. -/
theorem not_stops_of_ends (h : t.ends longest seconds = true) :
    (!t.stops longest seconds) = t.refused longest seconds := by
  cases hrefused : t.refused longest seconds with
  | true => rw [stops_of_refused hrefused, Bool.not_false]
  | false =>
    rw [ends, hrefused, Bool.or_false] at h
    rw [h, Bool.not_true]

theorem of_not_ends (h : t.ends longest seconds = false) :
    t.stops longest seconds = false ∧ t.failure? longest seconds = none := by
  rw [ends, Bool.or_eq_false_iff] at h
  exact ⟨h.1, by rw [failure?, h.2, if_neg Bool.false_ne_true]⟩

end Turn

namespace Emitter

/-- The warning of a turn, if it leaves no pause. -/
def overruns (e : Emitter τ) (seconds : τ) (t : Turn τ) : List LogRecord :=
  if t.pauses seconds then [] else [e.overrunRecord t.shift]

/-- The emitter after turns, whether it is stopped between them or not. -/
def through (e : Emitter τ) (turns : List (Turn τ)) : Emitter τ :=
  turns.foldl (fun e t => (e.turn t).1) e

/-- How the passes of turns end: by a failure, or by none. -/
def outcomes (e : Emitter τ) : List (Turn τ) → List (Option Failure)
  | [] => []
  | t :: turns => (e.tick t).2 :: (e.turn t).1.outcomes turns

theorem length_outcomes (e : Emitter τ) (turns : List (Turn τ)) :
    (e.outcomes turns).length = turns.length := by
  induction turns generalizing e with
  | nil => rfl
  | cons t turns ih => exact congrArg (· + 1) (ih (e.turn t).1)

section
variable {e : Emitter τ} {seconds : τ}

theorem pause_pass (seconds : τ) (e : Emitter τ) (t : Turn τ) :
    pause seconds e.wall (e.pass t).wall = if t.pauses seconds then seconds - t.shift else 0 := by
  rw [wall_pass, pause, add_sub_cancel_left]
  simp only [Turn.pauses, decide_eq_true_eq]

theorem turn_of_seconds (h : e.interval.seconds = some seconds) (t : Turn τ) :
    e.turn t = (e.pass t).rest seconds e.wall t := by
  simp only [turn, (e.did_pass t).interval, h]

theorem pause_pass_pos_iff (seconds : τ) (e : Emitter τ) (t : Turn τ) :
    0 < pause seconds e.wall (e.pass t).wall ↔ t.pauses seconds = true := by
  rw [pause_pass]
  cases hleft : t.pauses seconds with
  | true => simpa using of_decide_eq_true hleft
  | false => simp

theorem refuses_pass (seconds : τ) (hcleared : e.signalled = false) (t : Turn τ) :
    (t.pauses seconds && (e.pass t).refuses (pause seconds e.wall (e.pass t).wall)) =
      t.refused e.longest seconds := by
  have hpass := e.did_pass t
  rw [refuses, hpass.signalled, hpass.longest, hcleared, pause_pass, Turn.refused, Bool.false_or]
  cases t.pauses seconds <;> rfl

theorem waitsFor_pass (seconds : τ) (hcleared : e.signalled = false) (t : Turn τ) :
    (e.pass t).waitsFor seconds e.wall = (t.pauses seconds && !t.refused e.longest seconds) := by
  have hpos : decide (0 < pause seconds e.wall (e.pass t).wall) = t.pauses seconds :=
    Bool.eq_iff_iff.2 (decide_eq_true_iff.trans (pause_pass_pos_iff seconds e t))
  rw [← refuses_pass seconds hcleared, waitsFor, hpos]
  cases t.pauses seconds <;> rfl

theorem did_rest_pass (seconds : τ) (hcleared : e.signalled = false) (t : Turn τ) :
    Did (e.pass t) ((e.pass t).rest seconds e.wall t).1
      (t.pauses seconds && !t.refused e.longest seconds && t.stopInPause) 0
      (if t.pauses seconds then
        .wait (seconds - t.shift) :: setIf (!t.refused e.longest seconds && t.stopInPause)
      else []) [] (e.overruns seconds t) := by
  have hrest := (e.pass t).did_rest seconds e.wall t
  simp only [waitsFor_pass seconds hcleared, pause_pass_pos_iff,
    (e.did_pass t).overrunRecord] at hrest
  rw [pause_pass, wall_pass, add_sub_cancel_left] at hrest
  rw [overruns]
  cases hleft : t.pauses seconds <;> simpa [hleft] using hrest

/-- **What a turn does**: one pass, and a wait or a warning. -/
theorem did_turn (h : e.interval.seconds = some seconds) (hcleared : e.signalled = false)
    (t : Turn τ) :
    Did e (e.turn t).1 (t.stops e.longest seconds) (if (e.tick t).2.isNone then 1 else 0)
        (t.signals e.longest seconds) (e.tick t).2.toList (e.overruns seconds t) ∧
      (e.turn t).2 = t.failure? e.longest seconds := by
  rw [turn_of_seconds h]
  constructor
  · have hboth := (e.did_pass t).trans (did_rest_pass seconds hcleared t)
    rwa [List.append_nil, List.nil_append, Nat.add_zero] at hboth
  · simp only [rest_snd, pause_pass_pos_iff, Turn.failure?, ← refuses_pass seconds hcleared,
      Bool.and_eq_true]

theorem turn_of_not_ends (h : e.interval.seconds = some seconds) (hcleared : e.signalled = false)
    {t : Turn τ} (ht : t.ends e.longest seconds = false) :
    (e.turn t).2 = none ∧ (e.turn t).1.interval.seconds = some seconds ∧
      (e.turn t).1.signalled = false ∧ (e.turn t).1.longest = e.longest ∧
      (e.turn t).1.running = e.running := by
  obtain ⟨hstops, hnone⟩ := Turn.of_not_ends ht
  obtain ⟨hturn, hfailure⟩ := did_turn h hcleared t
  refine ⟨hfailure.trans hnone, (congrArg Interval.seconds hturn.interval).trans h, ?_,
    hturn.longest, ?_⟩
  · rw [hturn.signalled, hcleared, hstops, Bool.or_false]
  · rw [hturn.running, hstops, Bool.not_false, Bool.and_true]

/-- **What a list of turns does** of which only the last may end the run. -/
theorem did_through (h : e.interval.seconds = some seconds) (hcleared : e.signalled = false)
    {going : List (Turn τ)} (hgoing : ∀ t ∈ going, t.ends e.longest seconds = false)
    (last : Turn τ) :
    let turns := going ++ [last]
    Did e (e.through turns) (last.stops e.longest seconds)
      ((e.outcomes turns).countP Option.isNone) (turns.flatMap (Turn.signals e.longest seconds))
      (e.outcomes turns).reduceOption (turns.flatMap (e.overruns seconds)) := by
  intro turns
  -- no turn before the last ends the run, so the signal is clear whenever a turn begins
  induction going generalizing e with
  | nil =>
    have hturn := (did_turn h hcleared last).1
    cases houtcome : (e.tick last).2 <;>
      simpa [turns, through, outcomes, List.reduceOption, houtcome] using hturn
  | cons t going ih =>
    obtain ⟨hturn, -⟩ := did_turn h hcleared t
    obtain ⟨-, hinterval, hcleared', hlongest, -⟩ :=
      turn_of_not_ends h hcleared (hgoing t List.mem_cons_self)
    have hrest := ih hinterval hcleared'
      fun t ht => hlongest.symm ▸ hgoing t (List.mem_cons_of_mem _ ht)
    have hoverruns : (e.turn t).1.overruns seconds = e.overruns seconds := by
      funext t'
      rw [overruns, overruns, hturn.overrunRecord]
    rw [hoverruns, hlongest] at hrest
    have hboth := hturn.trans hrest
    rw [(Turn.of_not_ends (hgoing t List.mem_cons_self)).1, Bool.false_or] at hboth
    simp only [turns, outcomes, List.cons_append, List.flatMap_cons, List.countP_cons]
    rw [Nat.add_comm]
    cases houtcome : (e.tick t).2 with
    | none => rwa [houtcome] at hboth
    | some f =>
      rw [houtcome] at hboth
      exact hboth

/-! ## The loop -/

theorem loop_of_stopped (h : e.running = false) (turns : List (Turn τ)) :
    e.loop turns = (e, none) := by
  cases turns with
  | nil => rfl
  | cons t turns => rw [loop, h, if_neg Bool.false_ne_true]

theorem loop_of_running (hrunning : e.running = true) (t : Turn τ) (turns : List (Turn τ)) :
    e.loop (t :: turns) = match (e.turn t).2 with
      | none => (e.turn t).1.loop turns
      | some f => ((e.turn t).1, some f) := by
  rw [loop, if_pos hrunning]
  rcases e.turn t with ⟨b, _ | f⟩ <;> rfl

/-- **The loop runs all turns up to the first that ends it**, and none behind it. -/
theorem loop_eq_through (h : e.interval.seconds = some seconds) (hcleared : e.signalled = false)
    (hrunning : e.running = true) {going : List (Turn τ)}
    (hgoing : ∀ t ∈ going, t.ends e.longest seconds = false) {last : Turn τ}
    (hlast : last.ends e.longest seconds = true) (later : List (Turn τ)) :
    e.loop (going ++ last :: later) =
      (e.through (going ++ [last]), last.failure? e.longest seconds) := by
  induction going generalizing e with
  | nil =>
    obtain ⟨hturn, hfailure⟩ := did_turn h hcleared last
    rw [List.nil_append, loop_of_running hrunning, hfailure]
    -- a refused pause leaves by the failure, a stop by the condition of the loop
    cases hrefused : last.refused e.longest seconds with
    | true => simp [Turn.failure?, hrefused, through]
    | false =>
      have hended : (e.turn last).1.running = false := by
        rw [hturn.running, Turn.not_stops_of_ends hlast, hrefused, Bool.and_false]
      simp [Turn.failure?, hrefused, through, loop_of_stopped hended]
  | cons t going ih =>
    obtain ⟨hnone, hinterval, hcleared', hlongest, hon⟩ :=
      turn_of_not_ends h hcleared (hgoing t List.mem_cons_self)
    rw [List.cons_append, loop_of_running hrunning, hnone]
    have hrest := ih hinterval hcleared' (hon.trans hrunning)
      (fun t ht => hlongest.symm ▸ hgoing t (List.mem_cons_of_mem _ ht)) (hlongest.symm ▸ hlast)
    rw [hlongest] at hrest
    exact hrest

/-! ## The main theorem -/

/-- **The accounts of a run** in exact arithmetic whose turn `last` is the first in which a stop is
    asked for, or whose pause the signal refuses.  It runs the passes of all turns up to this one, and
    no other: as many come through as it counts more than before, and each other one is reported by one
    error and does not end the loop.  A turn waits for what its pass left of the interval, or, if that
    is nothing, leaves one warning.  If a stop was asked for, the run comes to its end and the emitter
    is stopped; otherwise the refused pause breaks it off, and the emitter counts as running. -/
theorem run_accounted (e : Emitter τ) (seconds : τ) (h : e.interval.seconds = some seconds)
    (going : List (Turn τ)) (hgoing : ∀ t ∈ going, t.ends e.longest seconds = false)
    (last : Turn τ) (hlast : last.ends e.longest seconds = true) (later : List (Turn τ)) :
    let turns := going ++ [last]
    let outcomes := e.start.outcomes turns
    let b := (e.run (going ++ last :: later)).1
    e.run (going ++ last :: later) =
        (e.start.through turns,
          if last.refused e.longest seconds then some .pauseTooLong else none) ∧
      outcomes.length = turns.length ∧
      b.running = last.refused e.longest seconds ∧
      b.passes = e.passes + outcomes.countP Option.isNone ∧
      b.aggregator.log.filter reportsFailure =
        e.aggregator.log.filter reportsFailure ++ outcomes.reduceOption.map failureRecord ∧
      b.aggregator.log.filter warnsOverrun =
        e.aggregator.log.filter warnsOverrun ++ turns.flatMap (e.overruns seconds) ∧
      b.events = e.events ++ .clear :: turns.flatMap (Turn.signals e.longest seconds) := by
  intro turns outcomes b
  have hstart : e.start.interval.seconds = some seconds := h
  have hrun : e.run (going ++ last :: later) = (e.start.through turns, _) :=
    loop_eq_through hstart rfl rfl hgoing hlast later
  have hb : b = e.start.through turns := congrArg Prod.fst hrun
  have hdid := e.did_start.trans (did_through hstart rfl hgoing last)
  rw [← hb] at hdid
  refine ⟨hrun, length_outcomes _ _, ?_, ?_, hdid.reports, hdid.warnings, hdid.events⟩
  · rw [← Turn.not_stops_of_ends hlast, hdid.running, Bool.false_or]
    rfl
  · rw [hdid.passes, Nat.zero_add]

theorem run_of_beyondFloat (h : e.interval.seconds = none) (t : Turn τ) (turns : List (Turn τ)) :
    e.run (t :: turns) = (e.start.pass t, some .beyondFloat) := by
  have hinterval : (e.start.pass t).interval.seconds = none :=
    (congrArg Interval.seconds (e.start.did_pass t).interval).trans h
  rw [run, loop_of_running rfl]
  simp only [turn, hinterval]

end

/-- A new emitter over whole seconds, with a turn every two of them. -/
def wholeSeconds : Emitter ℤ :=
  ⟨.start "\x7b\x7d" (.named "") .willing .start, ⟨"2", some 2⟩, 0, Decimal.intText, false, 0,
    some 9223372036, false, []⟩

/-- A pass that fails after so many seconds, and a stop in the pause if there is one. -/
def failing (shift : ℤ) : Turn ℤ := ⟨shift, some (.raised .runtime "boom"), false, true⟩

/-- The pass of three seconds leaves no pause to be stopped in, the pass of one second does, and a
    third is not run. -/
theorem overrun_then_stopped :
    let r := wholeSeconds.run [failing 3, failing 1, failing 1]
    r.2 = none ∧ r.1.running = false ∧ r.1.passes = 0 ∧
      (r.1.aggregator.log.filter reportsFailure).length = 2 ∧
      r.1.aggregator.log.filter warnsOverrun = [wholeSeconds.overrunRecord 3] ∧
      r.1.events = [.clear, .wait 1, .set] := by
  obtain ⟨hrun, -, hrunning, hpasses, hreports, hwarnings, hevents⟩ :=
    run_accounted wholeSeconds 2 rfl [failing 3] (by decide) (failing 1) (by decide) [failing 1]
  exact ⟨congrArg Prod.snd hrun, hrunning, hpasses, congrArg List.length hreports, hwarnings,
    hevents⟩

/-- A pass that fails at once, in which a stop is asked for if so said. -/
def failingAt (asked : Bool) : Turn ℤ := ⟨0, some (.raised .runtime "boom"), asked, false⟩

/-- The run of two passes that fail at once over an interval, with a stop asked for in the second. -/
def twoPasses (i : Interval ℤ) : Emitter ℤ × Option Failure :=
  { wholeSeconds with interval := i }.run [failingAt false, failingAt true]

/-- An interval of ten thousand million seconds and one beyond the doubles each end a run behind its
    first pass, and leave the emitter running. -/
theorem tooLong_ends_run :
    (let r := twoPasses ⟨"10000000000", some (10 ^ 10)⟩
     r.2 = some .pauseTooLong ∧ r.1.running = true ∧
      (r.1.aggregator.log.filter reportsFailure).length = 1) ∧
    ∃ i : Interval Float, Interval.ofValue (.int (10 ^ 200 * 10 ^ 200)) = .ok i ∧ i.seconds = none ∧
      let r := twoPasses ⟨i.shown, none⟩
      r.2 = some .beyondFloat ∧ r.1.running = true ∧
        (r.1.aggregator.log.filter reportsFailure).length = 1 := by
  refine ⟨⟨rfl, rfl, rfl⟩, _, rfl, ?_, ?_⟩
  · decide +kernel
  · intro r
    have hr : r = _ := run_of_beyondFloat rfl (failingAt false) [failingAt true]
    rw [hr]
    exact ⟨rfl, rfl, rfl⟩

end Emitter

end MetricDocs
