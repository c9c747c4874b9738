/-
  The emitter: publish passes at a fixed interval.

  A turn of the loop is one pass followed by a pause for what is left of the interval, or by a
  warning if nothing is left.  What happens around the loop during a turn is given to it: how far
  the wall clock moves during the pass, whether the pass fails, and whether a stop is asked for.
  The wall clock may count in any kind of numbers, and a signal may have a longest pause.

  * `pause` is what is left of an interval;
  * `Interval.ofValue` admits positive numbers only;
  * `Emitter.refuses` says which pauses the signal of an emitter does not wait for;
  * `Emitter.tick` is one pass, `Emitter.turn` one turn, `Emitter.run` the loop over a list of turns;
  * `Emitter.runGuarded` is the loop as a thread runs it: a failure that ends it is logged, and the
    emitter is stopped.
-/
import MetricDocs.Aggregator
import MetricDocs.Decimal.Fixed

namespace MetricDocs

/-! ## Intervals and pauses -/

section
variable {τ : Type} [OfNat τ 0] [Sub τ] [LT τ] [DecidableLT τ]

/-- What is left of an interval after a pass between two readings of a clock; never negative. -/
def pause (interval began ended : τ) : τ :=
  if 0 < interval - (ended - began) then interval - (ended - began) else 0

end

/-- The seconds between two passes: as configured, and as a number unless they are beyond all. -/
structure Interval (τ : Type) where
  shown : String
  seconds : Option τ
  deriving DecidableEq, Repr

/-- A positive number as an interval; what is no number at all has no order with zero. -/
def Interval.ofValue (v : Value) : Except Failure (Interval Float) :=
  match v with
  | .int n =>
    if n ≤ 0 then .error .intervalNotPositive else .ok ⟨v.shown, Decimal.nearest? n⟩
  | .bool b => if b then .ok ⟨v.shown, some 1.0⟩ else .error .intervalNotPositive
  | .float x => if x ≤ 0.0 then .error .intervalNotPositive else .ok ⟨v.shown, some x⟩
  | v => .error (.incomparable "<=" v.kindName "int")

/-! ## The emitter -/

/-- What an emitter does to its stop signal: clears it, sets it, or waits for it. -/
inductive SignalEvent (τ : Type) where
  | clear
  | set
  | wait (seconds : τ)
  deriving DecidableEq, Repr

/-- Whether a signal is set after an event, given whether it was before. -/
def SignalEvent.sets {τ : Type} (before : Bool) : SignalEvent τ → Bool
  | .clear => false
  | .set => true
  | .wait _ => before

/-- What happens during one turn: the movement of the wall clock during the pass, a failure in
    place of the pass, and requests to stop during the pass and during the pause. -/
structure Turn (τ : Type) where
  shift : τ
  failure : Option Failure
  stopInPass : Bool
  stopInPause : Bool

/-- An emitter with its aggregator, the wall clock, the way its seconds are written to three places,
    and its stop signal: the longest pause that it waits for, if there is one, whether it is set, and
    its events in order. -/
structure Emitter (τ : Type) where
  aggregator : Aggregator
  interval : Interval τ
  wall : τ
  written : τ → String
  running : Bool
  passes : Nat
  longest : Option τ
  signalled : Bool
  events : List (SignalEvent τ)

namespace Emitter

/-- The longest pause of a signal: a second more has too many nanoseconds for sixty-four bits. -/
def longestPause : Float := 9223372036.0

/-- An emitter of an aggregator over an interval, before its first run. -/
def ofInterval (a : Aggregator) (interval : Interval Float) (wall : Float) : Emitter Float :=
  ⟨a, interval, wall, Decimal.fixedText 3, false, 0, some longestPause, false, []⟩

def create (a : Aggregator) (interval : Value) (wall : Float) : Except Failure (Emitter Float) :=
  (Interval.ofValue interval).map fun i => ofInterval a i wall

variable {τ : Type}

/-- Logs a record under the emitter's logger. -/
def say (e : Emitter τ) (level : Int) (message : String) (failure : Option Failure) : Emitter τ :=
  { e with aggregator := e.aggregator.record ⟨level, Logger.emitter, message, failure⟩ }

/-- Adds an event of the stop signal. -/
def signal (e : Emitter τ) (event : SignalEvent τ) : Emitter τ :=
  { e with signalled := event.sets e.signalled, events := e.events ++ [event] }

def stop (e : Emitter τ) : Emitter τ :=
  let e := e.say Level.info "Stopping metrics emitter" none
  { e with running := false }.signal .set

/-- Asks the emitter to stop, if so said. -/
def stopIf (e : Emitter τ) (asked : Bool) : Emitter τ := if asked then e.stop else e

def start (e : Emitter τ) : Emitter τ :=
  let e := { e with running := true }.signal .clear
  e.say Level.info ("Starting metrics emitter, interval " ++ e.interval.shown ++ "s") none

variable [Add τ]

def advance (e : Emitter τ) (seconds : τ) : Emitter τ := { e with wall := e.wall + seconds }

/-- One pass; it counts if it goes through. -/
def tick (e : Emitter τ) (t : Turn τ) : Emitter τ × Option Failure :=
  let e := (e.advance t.shift).stopIf t.stopInPass
  match t.failure with
  | some f => (e, some f)
  | none =>
    match e.aggregator.publishMetrics with
    | (a, some f) => ({ e with aggregator := a }, some f)
    | (a, none) => ({ e with aggregator := a, passes := e.passes + 1 }, none)

/-- One pass, whose failure is logged. -/
def pass (e : Emitter τ) (t : Turn τ) : Emitter τ :=
  match e.tick t with
  | (e, none) => e
  | (e, some f) => e.say Level.error ("Error publishing metrics: " ++ f.message) (some f)

variable [OfNat τ 0] [Sub τ] [LT τ] [DecidableLT τ]

/-- Whether the signal fails to wait for so many seconds.  One that is set comes back at once, whatever
    it is to wait for. -/
def refuses (e : Emitter τ) (seconds : τ) : Bool :=
  !e.signalled && e.longest.any fun longest => longest < seconds

/-- The pause after a pass that began at `began`, or the warning that there is none.  Nobody asks for a
    stop in a pause that the signal refuses. -/
def rest (e : Emitter τ) (seconds began : τ) (t : Turn τ) : Emitter τ × Option Failure :=
  let left := pause seconds began e.wall
  if 0 < left then
    let b := e.signal (.wait left)
    if e.refuses left then (b, some .pauseTooLong)
    else ((b.advance left).stopIf t.stopInPause, none)
  else
    (e.say Level.warning
      ("Publish took " ++ e.written (e.wall - began) ++ "s, longer than interval " ++
        e.interval.shown ++ "s") none, none)

/-- One turn: a pass and the pause.  An interval beyond all numbers leaves no pause to compute. -/
def turn (e : Emitter τ) (t : Turn τ) : Emitter τ × Option Failure :=
  let began := e.wall
  let e := e.pass t
  match e.interval.seconds with
  | none => (e, some .beyondFloat)
  | some seconds => e.rest seconds began t

/-- Turns while the emitter is running, up to a failure; the list is what happens during them. -/
def loop (e : Emitter τ) : List (Turn τ) → Emitter τ × Option Failure
  | [] => (e, none)
  | t :: turns =>
    if e.running then
      match e.turn t with
      | (e, some f) => (e, some f)
      | (e, none) => e.loop turns
    else (e, none)

/-- Starts the emitter and runs the loop. -/
def run (e : Emitter τ) (turns : List (Turn τ)) : Emitter τ × Option Failure := e.start.loop turns

/-- The record of a failure that ended an emitter's thread. -/
def threadRecord (f : Failure) : LogRecord :=
  ⟨Level.error, Logger.emitter, "Emitter thread error: " ++ f.message, some f⟩

/-- What an emitter's thread calls: the loop, and after a failure that ended it a stop. -/
def threadCalls : Option Failure → List String
  | none => ["run"]
  | some _ => ["run", "stop"]

/-- What becomes of an emitter whose thread is ended by a failure: it is logged, and the emitter is
    stopped. -/
def ended (e : Emitter τ) (f : Failure) : Emitter τ :=
  { e with aggregator := e.aggregator.record (threadRecord f) }.stop

/-- Runs the loop as a thread does. -/
def runGuarded (e : Emitter τ) (turns : List (Turn τ)) : Emitter τ :=
  match e.run turns with
  | (e, none) => e
  | (e, some f) => e.ended f

end Emitter

end MetricDocs
