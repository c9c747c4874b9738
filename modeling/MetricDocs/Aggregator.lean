/-
  The aggregator: metrics become documents.

  A document is an object of a snapshot laid over the static fields and the timestamp of its pass,
  in compact JSON on one line.  A pass writes every object of a snapshot and then flushes; a sink
  that reports a failure of its own costs the document, any other failure ends the pass.

  * `documentLine` is the text of one document;
  * `Aggregator.write`, `writeObjects` and `publish` write one document, those of a pass, and a
    whole pass;
  * `Aggregator.buildSnapshot` assembles the store and the system's own metrics;
  * `Aggregator.close` runs the final pass, once;
  * `Command` and `Aggregator.perform` are all that can be asked of an aggregator.
-/
import MetricDocs.Config.StaticFields
import MetricDocs.Instruments
import MetricDocs.Sink
import MetricDocs.Snapshot
import MetricDocs.Store

namespace MetricDocs

/-! ## Documents -/

/-- Sets the timestamp among static fields; only a mapping can take it. -/
def stamped (fields : Value) (time : String) : Except Failure Value :=
  match fields with
  | .mapping fs => .ok (.mapping (Fields.put fs (.text "@timestamp") (.text time)))
  | .list _ => .error .textIndex
  | v => .error (.noAssignment v.kindName)

/-- The value of a document: static fields, timestamp, and the object over both. -/
def documentValue (statics : String) (time : String) (object : Value) : Except Failure Value :=
  match stamped (StaticFields.decode statics) time with
  | .error e => .error e
  | .ok base => base.merge object

/-- The line of a document, its line end included. -/
def documentLine (statics : String) (time : String) (object : Value) : Except Failure String :=
  match documentValue statics time object with
  | .error e => .error e
  | .ok v =>
    match Json.encode .compact v with
    | .error e => .error e
    | .ok cs => .ok (String.ofList (cs ++ ['\n']))

/-- The name under `metric` as a message shows it. -/
def metricShown (object : Value) : String :=
  match object with
  | .mapping fs => ((Fields.get? fs (.text "metric")).getD .null).shown
  | _ => Value.null.shown

/-! ## The aggregator -/

/-- An aggregator with the clock it reads, the records it logged and the chunks that its sinks
    took, both in order. -/
structure Aggregator where
  store : Store
  statics : String
  started : Float
  logger : String
  family : Family
  registry : Registry
  sink : Sink
  closed : Bool
  clock : Clock
  log : List LogRecord
  out : List String

namespace Aggregator

def start (statics : String) (family : Family) (sink : Sink) (clock : Clock) : Aggregator where
  store := .empty
  statics := statics
  started := clock.mono
  logger := Logger.aggregator
  family := family
  registry := .ofFamily family
  sink := sink
  closed := false
  clock := clock
  log := []
  out := []

/-- A new aggregator over given static fields; fields that no document can hold are refused. -/
def create (fields : Value) (family : Family) (sink : Sink) (clock : Clock) :
    Except Failure Aggregator :=
  (StaticFields.encode fields).map fun statics => start statics family sink clock

/-- Logs a record. -/
def record (a : Aggregator) (r : LogRecord) : Aggregator := { a with log := a.log ++ [r] }

/-- Logs a message under the aggregator's own logger. -/
def say (a : Aggregator) (level : Int) (message : String) : Aggregator :=
  a.record (.plain level a.logger message)

/-! ## Writing -/

/-- Hands a line to the sink.  A failure that the sink reports is logged and counted, any other is
    given back. -/
def putLine (a : Aggregator) (object : Value) (line : String) : Aggregator × Option Failure :=
  let (sink, fault) := a.sink.write
  let a := { a with sink := sink, clock := { a.clock with mono := a.clock.mono + sink.writeCost } }
  match fault with
  | none =>
    ({ a with out := a.out ++ [line], registry := a.registry.countDocument a.family }, none)
  | some f =>
    if f.kind.ofSink then
      let a := a.say Level.error
        ("Failed to write metric '" ++ metricShown object ++ "': " ++ f.failure.message)
      ({ a with registry := a.registry.countWriteError a.family }, none)
    else (a, some f.failure)

def writeAt (a : Aggregator) (time : String) (object : Value) : Aggregator × Option Failure :=
  match documentLine a.statics time object with
  | .error e => (a, some e)
  | .ok line => a.putLine object line

/-- Writes one document; without a time, at the present one. -/
def write (a : Aggregator) (time : Option String) (object : Value) : Aggregator × Option Failure :=
  a.writeAt (match time with
    | none | some "" => timestamp a.clock.second
    | some t => t) object

/-- Writes documents in order, up to the first failure that is not the sink's own. -/
def writeObjects (a : Aggregator) (time : String) : List Value → Aggregator × Option Failure
  | [] => (a, none)
  | object :: objects =>
    match a.writeAt time object with
    | (b, none) => b.writeObjects time objects
    | (b, some e) => (b, some e)

/-- Flushes the sink.  A failure that the sink reports is logged, any other is given back. -/
def flush (a : Aggregator) : Aggregator × Option Failure :=
  let (sink, fault) := a.sink.flush
  let a := { a with sink := sink }
  match fault with
  | none => (a, none)
  | some f =>
    if f.kind.ofSink then
      (a.say Level.error ("Failed to flush metrics sink: " ++ f.failure.message), none)
    else (a, some f.failure)

/-- What follows a pass over `count` objects that began at `began` on the monotonic clock. -/
def finishPass (a : Aggregator) (began : Float) (count : Nat) : Aggregator :=
  let registry := match a.registry.setObjects a.family count with
    | .ok r => r
    | .error _ => a.registry
  let a := { a with registry := registry.observeDuration a.family (a.clock.mono - began) }
  a.say Level.debug ("Published " ++ Decimal.intText count ++ " metric objects")

/-- Publishes a snapshot: all its objects with one timestamp, then a flush. -/
def publish (a : Aggregator) (objects : Fields) : Aggregator × Option Failure :=
  match a.writeObjects (timestamp a.clock.second) (objects.map Prod.snd) with
  | (b, some e) => (b, some e)
  | (b, none) =>
    match b.flush with
    | (c, some e) => (c, some e)
    | (c, none) => (c.finishPass a.clock.mono objects.length, none)

/-! ## Snapshots -/

/-- The milliseconds since the start, and the number of threads. -/
def systemStats (a : Aggregator) : Except Failure Table :=
  match (Value.float ((a.clock.mono - a.started) * 1000.0)).toWhole with
  | .error e => .error e
  | .ok uptime => .ok [("system.uptime", uptime), ("system.goroutines", a.clock.threads)]

def stream (t : Table) : List (String × Value) := t.map fun e => (e.1, .int e.2)

/-- Assembles counters and gauges, then timers, then the system's own metrics: what was assembled
    and the failure that stopped it, if one did. -/
def assemble (a : Aggregator) : Snapshot × Option Failure :=
  match Snapshot.empty.addStreams [stream a.store.counterSnapshot, stream a.store.timerSnapshot] with
  | (s, some e) => (s, some e)
  | (s, none) =>
    match a.systemStats with
    | .error e => (s, some e)
    | .ok stats => s.addAll (stream stats)

def droppedRecord (d : Dropped) : LogRecord := .plain Level.warning Logger.grouping d.message

/-- Assembles a snapshot and logs the metrics that were dropped. -/
def buildSnapshot (a : Aggregator) : Aggregator × Except Failure Fields :=
  let (s, failure) := a.assemble
  let b := { a with log := a.log ++ s.dropped.map droppedRecord }
  match failure with
  | some e => (b, .error e)
  | none => (b, .ok s.objects)

/-- Assembles a snapshot and publishes it. -/
def publishMetrics (a : Aggregator) : Aggregator × Option Failure :=
  match a.buildSnapshot with
  | (b, .error e) => (b, some e)
  | (b, .ok objects) => b.publish objects

/-- Runs the final pass, unless it was run before. -/
def close (a : Aggregator) : Aggregator × Option Failure :=
  if a.closed then (a, none)
  else
    let a := { a with closed := true }
    (a.say Level.info "Closing stdout metrics, publishing final snapshot").publishMetrics

end Aggregator

/-! ## Commands -/

/-- A change of clock readings. -/
structure ClockChange where
  mono : Option Float
  epoch : Option Int
  micros : Option Int
  threads : Option Int

def Clock.changed (c : Clock) (d : ClockChange) : Clock :=
  ⟨d.mono.getD c.mono, d.epoch.getD c.epoch, d.micros.getD c.micros,
    d.threads.getD c.threads⟩

/-- What can be asked of an aggregator. -/
inductive Command where
  | store (c : StoreCommand)
  | setClock (d : ClockChange)
  | replaceSink (s : Sink)
  | setLogger (name : String)
  | systemStats
  | buildSnapshot
  | write (time : Option String) (object : Value)
  | publish (objects : Fields)
  | publishMetrics
  | close
  | samples
  | exposition
  | staticFields

/-- What an aggregator answers. -/
inductive Reply where
  | nothing
  | store (r : StoreReply)
  | entries (t : Table)
  | objects (fields : Fields)
  | samples (s : List Sample)
  | text (s : String)

namespace Aggregator

/-- The answer to a command that answers nothing but its failure. -/
def done (r : Aggregator × Option Failure) : Aggregator × Except Failure Reply :=
  match r with
  | (a, none) => (a, .ok .nothing)
  | (a, some e) => (a, .error e)

/-- Carries out a command. -/
def perform (a : Aggregator) : Command → Aggregator × Except Failure Reply
  | .store c =>
    let (store, log, reply) := a.store.perform c
    ({ a with store := store, log := a.log ++ log }, reply.map .store)
  | .setClock d => ({ a with clock := a.clock.changed d }, .ok .nothing)
  | .replaceSink s => ({ a with sink := s }, .ok .nothing)
  | .setLogger name => ({ a with logger := Logger.named name }, .ok .nothing)
  | .systemStats => (a, a.systemStats.map .entries)
  | .buildSnapshot =>
    let (b, r) := a.buildSnapshot
    (b, r.map .objects)
  | .write time object => done (a.write time object)
  | .publish objects => done (a.publish objects)
  | .publishMetrics => done a.publishMetrics
  | .close => done a.close
  | .samples => (a, .ok (.samples a.registry.samples))
  | .exposition => (a, .ok (.text a.registry.exposition))
  | .staticFields => (a, .ok (.text a.statics))

/-- Carries out commands in order, whether they fail or not: the aggregator after them. -/
def run (a : Aggregator) (commands : List Command) : Aggregator :=
  commands.foldl (fun a c => (a.perform c).1) a

end Aggregator

end MetricDocs
