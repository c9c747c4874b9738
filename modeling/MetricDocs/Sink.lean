/-
  Clocks and sinks: what the aggregator reads and writes.

  * `Clock` holds the readings of all clocks and the number of threads;
  * `Sink` takes documents; which of its writes and flushes fail, and how, is given by their
    number, and every write takes its time, whether it fails or not;
  * `Sink.write` and `Sink.flush` count the attempt and give its failure.
-/
import MetricDocs.Calendar
import MetricDocs.Failure

namespace MetricDocs

/-- The readings of the clocks: monotonic seconds, the UTC time in whole seconds since 1970 and
    microseconds, and the number of live threads. -/
structure Clock where
  mono : Float
  epoch : Int
  micros : Int
  threads : Int
  deriving DecidableEq, Repr

/-- The first of January 2014, with the monotonic clock at zero and one thread. -/
def Clock.start : Clock := ⟨0.0, 1388534400, 0, 1⟩

/-- The whole second of the UTC time. -/
def Clock.second (c : Clock) : Int := wholeSecond c.epoch c.micros

/-- A failure of a sink. -/
structure SinkFault where
  kind : FailureKind
  text : String
  deriving DecidableEq, Repr

def SinkFault.failure (f : SinkFault) : Failure := .raised f.kind f.text

/-- A sink: the failures of its writes and flushes by number, the seconds that a write takes, and
    how many of each there were. -/
structure Sink where
  writeFault : Nat → Option SinkFault
  flushFault : Nat → Option SinkFault
  writeCost : Float
  writes : Nat
  flushes : Nat

namespace Sink

/-- A sink that takes everything at once. -/
def willing : Sink := ⟨fun _ => none, fun _ => none, 0.0, 0, 0⟩

/-- A write: the failure, if it fails, and the sink after it. -/
def write (s : Sink) : Sink × Option SinkFault :=
  ({ s with writes := s.writes + 1 }, s.writeFault s.writes)

/-- A flush: the failure, if it fails, and the sink after it. -/
def flush (s : Sink) : Sink × Option SinkFault :=
  ({ s with flushes := s.flushes + 1 }, s.flushFault s.flushes)

/-- The fault listed for a number. -/
def faultAt (faults : List (Nat × SinkFault)) (i : Nat) : Option SinkFault :=
  (faults.find? fun f => f.1 = i).map Prod.snd

end Sink

end MetricDocs
