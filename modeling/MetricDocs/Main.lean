/-
  The program itself.

  Here the real files, clocks, signals and streams take the place of a `World`; what is done with
  them is said in `Cli.Program`, in the aggregator and in the emitter.
-/
import MetricDocs.Cli.Program
import Std.Internal.UV.Signal
import Std.Time.Zoned

namespace MetricDocs.Cli

def lookUp (path : String) : IO Found := do
  let full := (← IO.currentDir) / path
  if path.isEmpty then return .nothing
  else if ← full.isDir then return .directory
  else if ← full.pathExists then return .file (← IO.FS.readBinFile full).toList
  else return .nothing

/-- The value of a variable of the environment; one that is not set is empty. -/
def environmentVariable (name : String) : IO String := do
  return (← IO.getEnv name).getD ""

def readNanos : IO Int := do
  return (← Std.Time.Timestamp.now).toNanosecondsSinceUnixEpoch.val

/-- The seconds since 1970. -/
def readWall : IO Float := do
  return Float.ofInt (← readNanos) / 1e9

def readClock : IO Clock := do
  let mono := (← IO.monoNanosNow).toFloat / 1e9
  let now ← readNanos
  return ⟨mono, now / 1000000000, now % 1000000000 / 1000, 1⟩

/-- The time zone of the clocks on the wall; UTC if it is not known. -/
def readZone : IO Zone := do
  try
    let rules ← Std.Time.Database.defaultGetLocalZoneRules
    return ⟨fun s => (rules.timezoneAt (.ofSecondsSinceUnixEpoch ⟨s⟩)).offset.second.val⟩
  catch _ => return .utc

def emit (root : RootLogger) (records : List LogRecord) : IO Unit := do
  IO.eprint (root.written (← readZone) (← readClock).second records)

/-- Writes out the documents and records of an aggregator, and lets it read the clocks. -/
def drain (root : RootLogger) (a : Aggregator) : IO Aggregator := do
  let stdout ← IO.getStdout
  stdout.putStr (String.join a.out)
  stdout.flush
  emit root a.log
  return { a with out := [], log := [], clock := ← readClock }

/-- The same for the aggregator of an emitter. -/
def drainEmitter (root : RootLogger) (e : Emitter Float) : IO (Emitter Float) := do
  let a ← drain root e.aggregator
  return { e with aggregator := a, wall := ← readWall, events := [] }

/-- The signal that has come, if one has. -/
def arrived (signals : List (IO.Promise Int)) : IO (Option Int) := do
  for s in signals do
    if ← s.isResolved then
      if let some n ← IO.wait s.result? then return some n
  return none

/-- Sleeps for some seconds, or until a signal comes. -/
partial def sleep (signals : List (IO.Promise Int)) (seconds : Float) : IO (Option Int) := do
  if let some n ← arrived signals then return some n
  if seconds ≤ 0.0 then return none
  let slice := min seconds 0.1
  IO.sleep (slice * 1000.0).toUInt32
  sleep signals (seconds - slice)

partial def await (signals : List (IO.Promise Int)) : IO Int := do
  match ← sleep signals 1.0 with
  | some n => return n
  | none => await signals

/-- Publishes at the interval of an emitter until a signal comes. -/
partial def publishUntil (root : RootLogger) (signals : List (IO.Promise Int)) (e : Emitter Float) :
    IO (Emitter Float × Int) := do
  let turn : Turn Float := ⟨0.0, none, false, false⟩
  let e ← drainEmitter root e
  let began := e.wall
  let e ← drainEmitter root (e.pass turn)
  let (e, failure) := e.rest (e.interval.seconds.getD 0.0) began turn
  match failure with
  | some f =>
    let e ← drainEmitter root (e.ended f)
    return (e, ← await signals)
  | none =>
    let pauses := e.events.map fun
      | .wait seconds => seconds
      | _ => 0.0
    let e ← drainEmitter root e
    match ← sleep signals (pauses.foldl (· + ·) 0.0) with
    | some n => return (e, n)
    | none => publishUntil root signals e

/-- Waits for a signal, with an emitter beside if there is an interval, and gives back the
    aggregator. -/
def wait (root : RootLogger) (interval : Option (Interval Float)) (a : Aggregator) : IO Aggregator := do
  let handlers ← [2, 15].mapM fun n => Std.Internal.UV.Signal.mk n true
  let signals ← handlers.mapM (·.next)
  emit root (beforeWaiting interval)
  let (a, n) ← match interval with
    | none => pure (a, ← await signals)
    | some i =>
      let e := (Emitter.ofInterval a i (← readWall)).start
      let (e, n) ← publishUntil root signals e
      pure (e.aggregator, n)
  handlers.forM (·.stop)
  emit root (afterWaiting interval n)
  return a

/-- Runs under settings that were loaded from a path. -/
def runIO (path : String) (once : Bool) (s : Settings) : IO UInt32 := do
  match RootLogger.fresh.configured s.global.logLevel s.global.logFormat with
  | .error f =>
    IO.eprintln f.report
    return 1
  | .ok root =>
    emit root (opening path s)
    match Aggregator.create (.mapping s.staticFields) (.named "") .willing (← readClock) with
    | .error f =>
      IO.eprintln f.report
      return 1
    | .ok a =>
      let a ← if once then pure a else wait root (emitterInterval? s) a
      let (a, failure) := (← drain root a).close
      let _ ← drain root a
      match failure with
      | none => return 0
      | some f =>
        IO.eprintln f.report
        return 1

end MetricDocs.Cli

open MetricDocs MetricDocs.Cli in
def main (args : List String) : IO UInt32 := do
  match Arguments.read args with
  | .error e =>
    IO.eprint e.report
    return 2
  | .ok .help =>
    IO.print help
    return 0
  | .ok (.run path once) =>
    let env := Environment.mk (← environmentVariable "LOG_LEVEL") (← environmentVariable "METRICS_EMIT_INTERVAL")
    let found ← lookUp (path.getD "")
    match settingsAt (fun _ => found) path env with
    | .error e =>
      IO.eprint (loadReport (fun ps => String.join (ps.map problemLines)) e)
      return 1
    | .ok (p, s) => runIO p once s
