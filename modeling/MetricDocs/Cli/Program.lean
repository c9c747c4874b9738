/-
  The program: what a command line makes of the world.

  A run loads the configuration, and then publishes once, or waits for a signal with an emitter
  beside it and publishes at the end.  Documents go to standard output, all else to standard error.

  * `World` is what a run meets and `Outcome` what it leaves;
  * `loadReport` is the report about a configuration that could not be loaded;
  * `opening`, `beforeWaiting` and `afterWaiting` are the records before the aggregator closes;
  * `runSettings` runs under given settings, `run` a whole command line.
-/
import MetricDocs.Cli.Arguments
import MetricDocs.Config.Load
import MetricDocs.Emitter
import MetricDocs.RootLogger

namespace MetricDocs.Cli

/-- What a run meets: the files, the environment, the time zone, the clocks when it opens and when it
    closes, the signal that ends the waiting, and the way that problems of a configuration are told
    at length. -/
structure World where
  look : String → Found
  environment : Environment
  zone : Zone
  opened : Clock
  closed : Clock
  signal : Int
  told : List Problem → String

/-- What a run leaves: its exit code or the failure that broke it off, what it wrote, and the
    interval of the emitter that it started. -/
structure Outcome where
  exit : Except Failure Nat
  stdout : String
  stderr : String
  emitter : Option (Interval Float)

/-- A run that ends with a code and a text on standard error. -/
def Outcome.refused (code : Nat) (stderr : String) : Outcome := ⟨.ok code, "", stderr, none⟩

/-! ## Reports -/

def problemCount (n : Nat) : String :=
  Decimal.intText n ++ (if n = 1 then " validation error" else " validation errors") ++ " for Config"

/-- A problem on lines of its own: its place and its wording. -/
def problemLines (p : Problem) : String :=
  "\n" ++ ".".intercalate p.location ++ "\n  " ++ p.kind.message ++ " [type=" ++ p.kind.name ++ "]"

/-- The report about a configuration that could not be loaded: of problems their number, and then what
    is told of them. -/
def loadReport (told : List Problem → String) (e : SettingsError) : String :=
  "Error loading configuration: " ++ (match e with
    | .failure f => f.message
    | .problems ps => "Configuration validation failed: " ++ problemCount ps.length ++ told ps) ++ "\n"

/-- The names of static fields in order, as a message shows them. -/
def shownNames (fields : Fields) : String :=
  let names := (fields.map fun e => (e.1, e.1.toValue)).mergeSort Json.textLe
  (Value.list (names.map (·.2))).quoted

def note (message : String) : LogRecord := .plain Level.info Logger.program message

/-- The records about the configuration that was loaded. -/
def opening (path : String) (s : Settings) : List LogRecord :=
  [note ("Configuration loaded from: " ++ path), note ("Static fields: " ++ shownNames s.staticFields)]

/-- The interval of the emitter, if there is to be one. -/
def emitterInterval? (s : Settings) : Option (Interval Float) :=
  if 0.0 < s.global.emitInterval then
    (Interval.ofValue (.float s.global.emitInterval)).toOption
  else none

/-- The records before the waiting: none if an emitter is started. -/
def beforeWaiting (interval : Option (Interval Float)) : List LogRecord :=
  if interval.isNone then
    [note "No emit interval configured, metrics publish on shutdown only"]
  else []

/-- The records once a signal has come: the signal, and that the emitter stops if there is one. -/
def afterWaiting (interval : Option (Interval Float)) (signal : Int) : List LogRecord :=
  note ("Received signal " ++ Decimal.intText signal ++ ", shutting down...") ::
    if interval.isSome then [.plain Level.info Logger.emitter "Stopping metrics emitter"] else []

/-! ## Runs -/

/-- The outcome of closing an aggregator, behind the text that was logged before. -/
def closing (w : World) (root : RootLogger) (a : Aggregator) (before : String)
    (interval : Option (Interval Float)) : Outcome :=
  let (a, failure) := { a with clock := w.closed }.close
  let exit := match failure with
    | none => .ok 0
    | some f => .error f
  ⟨exit, String.join a.out, before ++ root.written w.zone w.closed.second a.log, interval⟩

/-- A run under settings that were loaded from a path. -/
def runSettings (w : World) (path : String) (once : Bool) (s : Settings) : Outcome :=
  match RootLogger.fresh.configured s.global.logLevel s.global.logFormat with
  | .error f => ⟨.error f, "", "", none⟩
  | .ok root =>
    let write := root.written w.zone w.opened.second
    match Aggregator.create (.mapping s.staticFields) (.named "") .willing w.opened with
    | .error f => ⟨.error f, "", write (opening path s), none⟩
    | .ok a =>
      if once then closing w root a (write (opening path s)) none
      else
        let interval := emitterInterval? s
        closing w root { a with log := afterWaiting interval w.signal }
          (write (opening path s ++ beforeWaiting interval)) interval

/-- The settings that a path leads to, if there is a path. -/
def settingsAt (look : String → Found) (path : Option String) (env : Environment) :
    Except SettingsError (String × Settings) :=
  match path with
  | none => .error (.failure .noPath)
  | some p => (Settings.load look p env).map fun s => (p, s)

def run (w : World) (args : List String) : Outcome :=
  match Arguments.read args with
  | .error e => .refused 2 e.report
  | .ok .help => ⟨.ok 0, help, "", none⟩
  | .ok (.run path once) =>
    match settingsAt w.look path w.environment with
    | .error e => .refused 1 (loadReport w.told e)
    | .ok (p, s) => runSettings w p once s

end MetricDocs.Cli
