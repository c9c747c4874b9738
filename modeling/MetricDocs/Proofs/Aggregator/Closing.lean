/-
  Closing publishes exactly once.

  An aggregator is marked as closed before its final pass, and nothing but a close reads the mark.
  So a run is the run in which the first close is a record and a pass over the metrics, whether that
  pass comes through or not, and in which there is no other close.

  * `marked a closed` is the aggregator with another mark; `perform_marked`: whatever is no close
    does the same with any mark, and keeps it;
  * `close_marked` and `perform_close_of_closed`: the first close, and any later one;
  * `Act` is a command or a record, and `closedOnce commands` are the acts that stand for commands;
  * `run_eq_enact` and `closes_once`: a run ends as these acts do, and so every further command is
    answered alike.
-/
import MetricDocs.Proofs.Aggregator.Accounting

namespace MetricDocs

/-- Whether a command is a close. -/
def Command.isClose : Command → Bool
  | .close => true
  | _ => false

theorem Command.eq_close {c : Command} (h : c.isClose = true) : c = .close := by
  cases c with
  | close => rfl
  | _ => cases h

namespace Aggregator

/-! ## The mark -/

/-- The aggregator, marked as closed or as not. -/
def marked (a : Aggregator) (closed : Bool) : Aggregator := { a with closed := closed }

section
variable (a : Aggregator) (closed : Bool)

theorem marked_self : a.marked a.closed = a := rfl

theorem putLine_marked (object : Value) (line : String) :
    (a.marked closed).putLine object line =
      (a.putLine object line).map (marked · closed) id := by
  rw [putLine_eq, putLine_eq]
  simp only [marked]
  cases a.sink.writeFault a.sink.writes with
  | none => rfl
  | some f => cases hkind : f.kind.ofSink <;> simp [hkind]

theorem writeAt_marked (time : String) (object : Value) :
    (a.marked closed).writeAt time object =
      (a.writeAt time object).map (marked · closed) id := by
  rw [writeAt_eq, writeAt_eq, show (a.marked closed).statics = a.statics from rfl]
  cases documentLine a.statics time object with
  | error e => rfl
  | ok line => exact putLine_marked a closed object line

theorem writeObjects_marked (time : String) (objects : List Value) :
    (a.marked closed).writeObjects time objects =
      (a.writeObjects time objects).map (marked · closed) id := by
  induction objects generalizing a with
  | nil => rfl
  | cons object objects ih =>
    rw [writeObjects_cons, writeObjects_cons, writeAt_marked]
    rcases a.writeAt time object with ⟨b, _ | e⟩
    · exact ih b
    · rfl

theorem publish_marked (objects : Fields) :
    (a.marked closed).publish objects = (a.publish objects).map (marked · closed) id := by
  have hwrite := a.writeObjects_marked closed (timestamp a.clock.second) (objects.map Prod.snd)
  rcases heq : a.writeObjects (timestamp a.clock.second) (objects.map Prod.snd) with ⟨b, _ | e⟩
  · rw [heq] at hwrite
    rw [publish_of_none a heq, publish_of_none (a.marked closed) hwrite]
    simp only [marked]
    cases Sink.raised? (b.sink.flushFault b.sink.flushes) <;> rfl
  · rw [heq] at hwrite
    rw [publish_of_some a heq, publish_of_some (a.marked closed) hwrite]
    rfl

theorem buildSnapshot_marked : (a.marked closed).buildSnapshot =
    a.buildSnapshot.map (marked · closed) id := by
  unfold buildSnapshot
  rw [show (a.marked closed).assemble = a.assemble from rfl]
  rcases a.assemble with ⟨s, _ | e⟩ <;> rfl

theorem publishMetrics_marked : (a.marked closed).publishMetrics =
    a.publishMetrics.map (marked · closed) id := by
  rw [publishMetrics, publishMetrics, buildSnapshot_marked]
  rcases a.buildSnapshot with ⟨b, e | objects⟩
  · rfl
  · exact publish_marked b closed objects

theorem done_map (r : Aggregator × Option Failure) :
    done (r.map (marked · closed) id) = (done r).map (marked · closed) id := by
  rcases r with ⟨b, _ | e⟩ <;> rfl

/-- **Whatever is no close does the same with any mark**, and keeps it. -/
theorem perform_marked {c : Command} (hc : c.isClose = false) :
    (a.marked closed).perform c = (a.perform c).map (marked · closed) id := by
  cases c with
  | close => cases hc
  | buildSnapshot =>
    simp only [perform, buildSnapshot_marked]
    rfl
  | write time object =>
    exact (congrArg done (writeAt_marked a closed _ object)).trans (done_map closed _)
  | publish objects => simp only [perform, publish_marked, done_map]
  | publishMetrics => simp only [perform, publishMetrics_marked, done_map]
  | _ => rfl

theorem fst_perform_marked {c : Command} (hc : c.isClose = false) :
    ((a.marked closed).perform c).1 = (a.perform c).1.marked closed := by
  rw [perform_marked a closed hc, Prod.map_fst]

theorem snd_perform_marked {c : Command} (hc : c.isClose = false) :
    ((a.marked closed).perform c).2 = (a.perform c).2 := by
  rw [perform_marked a closed hc, Prod.map_snd, id]

/-! ## Closes -/

/-- The record of closing. -/
def sayClosing : Aggregator := a.say Level.info "Closing stdout metrics, publishing final snapshot"

variable {a}

/-- **The first close** marks the aggregator, and runs a pass behind its record. -/
theorem perform_close_of_open (h : a.closed = false) :
    a.perform .close = (a.sayClosing.perform .publishMetrics).map (marked · true) id := by
  simp only [perform, close_of_open h]
  rw [← done_map, ← publishMetrics_marked]
  rfl

/-- **Any later close does nothing.** -/
theorem perform_close_of_closed (h : a.closed = true) : a.perform .close = (a, .ok .nothing) := by
  simp only [perform, close, h, if_true, done]

variable (a)

/-- **On a closed aggregator closes can be left out of a run.** -/
theorem run_marked_true (commands : List Command) : (a.marked true).run commands =
    (a.run (commands.filter fun c => !c.isClose)).marked true := by
  induction commands generalizing a with
  | nil => rfl
  | cons c commands ih =>
    rw [run_cons]
    cases hc : c.isClose with
    | true =>
      obtain rfl := Command.eq_close hc
      rw [perform_close_of_closed rfl, List.filter_cons_of_neg (by simp [hc])]
      exact ih a
    | false =>
      rw [fst_perform_marked a true hc, List.filter_cons_of_pos (by simp [hc]), run_cons]
      exact ih _

end

/-! ## Runs without a close -/

/-- A command, or a record of the aggregator's own. -/
inductive Act where
  | command (c : Command)
  | log (level : Int) (message : String)

/-- Carries out an act. -/
def act (a : Aggregator) : Act → Aggregator × Except Failure Reply
  | .command c => a.perform c
  | .log level message => (a.say level message, .ok .nothing)

/-- Carries out acts in order, whether they fail or not: the aggregator after them. -/
def enact (a : Aggregator) (acts : List Act) : Aggregator := acts.foldl (fun a t => (a.act t).1) a

/-- The acts that close with a record and a pass in place of the first close, and leave out all
    others. -/
def closedOnce : List Command → List Act
  | [] => []
  | .close :: commands =>
    .log Level.info "Closing stdout metrics, publishing final snapshot" ::
      .command .publishMetrics ::
        (commands.filter fun c => !c.isClose).map .command
  | c :: commands => .command c :: closedOnce commands

theorem enact_cons (a : Aggregator) (t : Act) (acts : List Act) :
    a.enact (t :: acts) = (a.act t).1.enact acts := rfl

theorem enact_map_command (a : Aggregator) (commands : List Command) :
    a.enact (commands.map .command) = a.run commands := by
  rw [enact, List.foldl_map]
  rfl

theorem closedOnce_cons {c : Command} (hc : c.isClose = false) (commands : List Command) :
    closedOnce (c :: commands) = .command c :: closedOnce commands := by
  cases c with
  | close => cases hc
  | _ => rfl

/-- **A run ends as the acts do that stand for it**, the mark apart. -/
theorem run_eq_enact {a : Aggregator} (h : a.closed = false) (commands : List Command) :
    a.run commands =
      (a.enact (closedOnce commands)).marked (commands.any Command.isClose) := by
  induction commands generalizing a with
  | nil => rw [List.any_nil, ← h]; rfl
  | cons c commands ih =>
    rw [run_cons]
    cases hc : c.isClose with
    | true =>
      obtain rfl := Command.eq_close hc
      rw [perform_close_of_open h, Prod.map_fst, run_marked_true, closedOnce, enact_cons,
        enact_cons, enact_map_command, List.any_cons, hc, Bool.true_or]
      rfl
    | false =>
      have hopen : (a.perform c).1.closed = false := by
        have hkept := fst_perform_marked a a.closed hc
        rw [marked_self] at hkept
        rw [hkept]
        exact h
      rw [closedOnce_cons hc, enact_cons, List.any_cons, hc, Bool.false_or]
      exact ih hopen

/-! ## The main theorem -/

/-- **Closing publishes exactly once in any run.**  On an open aggregator, whatever fails, commands
    end as the acts do in which the first close is a record and a pass over the metrics and no other
    close is left, in all but the mark.  So each further command is answered alike: the first close
    as the pass, and a later one by nothing, which leaves the aggregator as it is. -/
theorem closes_once {a : Aggregator} (h : a.closed = false) (commands : List Command) :
    let b := a.run commands
    let b' := a.enact (closedOnce commands)
    b = b'.marked (commands.any Command.isClose) ∧
      (∀ c, c.isClose = false → (b.perform c).2 = (b'.perform c).2) ∧
      (commands.any Command.isClose = false →
        (b.perform .close).2 = (b'.sayClosing.perform .publishMetrics).2) ∧
      (commands.any Command.isClose = true → b.perform .close = (b, .ok .nothing)) := by
  intro b b'
  have hrun : b = b'.marked (commands.any Command.isClose) := run_eq_enact h commands
  refine ⟨hrun, fun c hc => ?_, fun hopen => ?_, fun hclosed => ?_⟩
  · rw [hrun, snd_perform_marked b' _ hc]
  · have hclose := perform_close_of_open (congrArg closed hrun |>.trans hopen)
    have hsaid : b.sayClosing = b'.sayClosing.marked false := by
      rw [hrun, hopen]
      rfl
    rw [hclose, Prod.map_snd, id, hsaid, snd_perform_marked _ _ rfl]
  · exact perform_close_of_closed ((congrArg closed hrun).trans hclosed)

/-- A close while the monotonic clock has no reading, so that the pass fails, then a pass of its
    own, and a second close. -/
def failedClose : List Command :=
  [.setClock ⟨some (0.0 / 0.0), none, none, none⟩, .close, .setClock ⟨some 1.0, none, none, none⟩,
    .publish bareObjects, .close]

/-- The first close fails without a line, the pass behind it writes three, and the second close does
    nothing. -/
theorem failedClose_once : ∃ a : Aggregator, a.closed = false ∧
    ((a.run (failedClose.take 1)).perform .close).2.toOption.isNone ∧
    a.run failedClose = (a.enact (closedOnce failedClose)).marked true ∧
    (a.run failedClose).out.length = 3 ∧
    (a.run failedClose).perform .close = (a.run failedClose, .ok .nothing) := by
  obtain ⟨hrun, -, -, hlater⟩ :=
    @closes_once (start "\x7b\x7d" (.named "") .willing .start) rfl failedClose
  exact ⟨_, rfl, by decide +kernel, hrun, by decide +kernel, hlater rfl⟩

end Aggregator

end MetricDocs
