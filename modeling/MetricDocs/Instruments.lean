/-
  Instruments: what the aggregator counts about itself.

  A registry lists instruments in the order of registration.  Every instrument owns the names of
  its series, and a registry takes no instrument one of whose names is taken.  The instruments of
  one aggregator are a family: two counters, a histogram and a gauge whose names begin alike.

  * `Registry.register` adds one instrument and `Registry.registerFamily` a family;
  * `Registry.countDocument`, `countWriteError`, `observeDuration` and `setObjects` record;
  * `Registry.samples` lists the samples and `Registry.exposition` writes them out.
-/
import MetricDocs.Failure
import MetricDocs.Decimal.Layout

namespace MetricDocs

/-! ## Readings -/

/-- The upper bounds of the buckets of durations, in seconds; one more bucket has no bound. -/
def durationBounds : List Float := [0.0005, 0.001, 0.005, 0.01, 0.025, 0.05, 0.1, 0.25, 1.0]

/-- Observations by bucket, the one without a bound last, and their sum. -/
structure Histogram where
  buckets : List Nat
  sum : Float
  deriving DecidableEq, Repr

namespace Histogram

def empty : Histogram := ⟨List.replicate (durationBounds.length + 1) 0, 0.0⟩

/-- Adds one to the first bucket whose bound is not exceeded; the last bucket takes every number
    that is left, and what is no number goes nowhere. -/
def tally (x : Float) : List Float → List Nat → List Nat
  | bound :: bounds, n :: ns => if x ≤ bound then (n + 1) :: ns else n :: tally x bounds ns
  | [], n :: ns => (if x == x then n + 1 else n) :: ns
  | _, [] => []

def observe (h : Histogram) (x : Float) : Histogram :=
  ⟨tally x durationBounds h.buckets, h.sum + x⟩

/-- The number of observations that were tallied. -/
def count (h : Histogram) : Nat := h.buckets.foldl (· + ·) 0

end Histogram

/-- What an instrument shows. -/
inductive Reading where
  | counter (n : Nat)
  | gauge (n : Int)
  | histogram (h : Histogram)
  deriving DecidableEq, Repr

/-- An instrument: its name, what it is about, and what it shows. -/
structure Instrument where
  name : String
  help : String
  reading : Reading
  deriving DecidableEq, Repr

/-- The names of the series that an instrument owns. -/
def Instrument.seriesNames (i : Instrument) : List String :=
  match i.reading with
  | .counter _ => [i.name, i.name ++ "_total", i.name ++ "_created"]
  | .gauge _ => [i.name]
  | .histogram _ =>
    [i.name, i.name ++ "_bucket", i.name ++ "_sum", i.name ++ "_count", i.name ++ "_created"]

/-! ## Registries -/

/-- Instruments in the order of registration. -/
abbrev Registry := List Instrument

namespace Registry

def seriesNames (r : Registry) : List String := r.flatMap Instrument.seriesNames

/-- Adds an instrument, unless one of its names is taken. -/
def register (r : Registry) (i : Instrument) : Except Failure Registry :=
  if i.seriesNames.any fun n => r.seriesNames.contains n then .error .duplicateSeries
  else .ok (r ++ [i])

/-- Adds instruments one after another, up to the first that is refused. -/
def registerAll (r : Registry) : List Instrument → Registry × Option Failure
  | [] => (r, none)
  | i :: is =>
    match r.register i with
    | .error e => (r, some e)
    | .ok s => registerAll s is

end Registry

/-- The names of the instruments of a family. -/
structure Family where
  documents : String
  writeErrors : String
  duration : String
  objects : String
  deriving DecidableEq, Repr

/-- The family whose names begin with a given text. -/
def Family.named (start : String) : Family :=
  ⟨start ++ "stdout_documents", start ++ "stdout_write_errors",
    start ++ "stdout_publish_duration_seconds", start ++ "stdout_snapshot_objects"⟩

/-- The instruments of a family, before anything was recorded. -/
def Family.instruments (f : Family) : List Instrument :=
  [⟨f.documents, "Total number of metric documents written", .counter 0⟩,
    ⟨f.writeErrors, "Total number of failed document writes", .counter 0⟩,
    ⟨f.duration, "Duration of each publish pass in seconds", .histogram .empty⟩,
    ⟨f.objects, "Number of component objects in the last snapshot", .gauge 0⟩]

namespace Registry

def registerFamily (r : Registry) (f : Family) : Registry × Option Failure :=
  r.registerAll f.instruments

def ofFamily (f : Family) : Registry := f.instruments

/-! ## Recording -/

/-- Changes what the instrument of a name shows. -/
def modify (r : Registry) (name : String) (change : Reading → Reading) : Registry :=
  r.map fun i => if i.name = name then { i with reading := change i.reading } else i

def increment : Reading → Reading
  | .counter n => .counter (n + 1)
  | reading => reading

def countDocument (r : Registry) (f : Family) : Registry := r.modify f.documents increment

def countWriteError (r : Registry) (f : Family) : Registry := r.modify f.writeErrors increment

def observeDuration (r : Registry) (f : Family) (seconds : Float) : Registry :=
  r.modify f.duration fun
    | .histogram h => .histogram (h.observe seconds)
    | reading => reading

/-- Sets the number of objects of the last pass; a number beyond the doubles is refused. -/
def setObjects (r : Registry) (f : Family) (count : Int) : Except Failure Registry :=
  match Decimal.nearest? count with
  | none => .error .beyondFloat
  | some _ => .ok (r.modify f.objects fun _ => .gauge count)

def reading? (r : Registry) (name : String) : Option Reading :=
  (r.find? fun i => i.name = name).map Instrument.reading

end Registry

/-! ## Samples -/

/-- One sample of a series. -/
structure Sample where
  name : String
  labels : List (String × String)
  value : Float

/-- A count as a double. -/
def countFloat (n : Int) : Float := (Decimal.nearest? n).getD (1.0 / 0.0)

/-- The buckets with their bounds as text, each holding those below it too. -/
def cumulative (total : Nat) : List Nat → List String → List (String × Nat)
  | n :: ns, bound :: bounds => (bound, total + n) :: cumulative (total + n) ns bounds
  | _, _ => []

def Instrument.samples (i : Instrument) : List Sample :=
  match i.reading with
  | .counter n => [⟨i.name ++ "_total", [], countFloat n⟩]
  | .gauge n => [⟨i.name, [], countFloat n⟩]
  | .histogram h =>
    (cumulative 0 h.buckets (durationBounds.map Decimal.floatText ++ ["+Inf"])).map
        (fun b => ⟨i.name ++ "_bucket", [("le", b.1)], countFloat b.2⟩) ++
      [⟨i.name ++ "_count", [], countFloat h.count⟩, ⟨i.name ++ "_sum", [], h.sum⟩]

def Registry.samples (r : Registry) : List Sample := r.flatMap Instrument.samples

/-! ## Exposition -/

/-- Whether a character may stand in a name of the exposition; a digit may not stand first. -/
def isNameChar (first : Bool) (c : Char) : Bool :=
  c.isAlpha || c = '_' || c = ':' || (c.isDigit && !first)

/-- A name of the exposition: every other character becomes an underscore. -/
def expositionName (name : String) : String :=
  match name.toList with
  | [] => ""
  | c :: cs =>
    let clean (first : Bool) (c : Char) := if isNameChar first c then c else '_'
    String.ofList (clean true c :: cs.map (clean false))

/-- The labels of a sample between braces; nothing without labels. -/
def labelText : List (String × String) → String
  | [] => ""
  | labels =>
    "\x7b" ++ ",".intercalate (labels.map fun l => l.1 ++ "=\"" ++ l.2 ++ "\"") ++ "\x7d"

def Sample.line (s : Sample) : String :=
  expositionName s.name ++ labelText s.labels ++ " " ++ Decimal.expositionText s.value ++ "\n"

/-- The name of the kind of an instrument. -/
def Reading.kindName : Reading → String
  | .counter _ => "counter"
  | .gauge _ => "gauge"
  | .histogram _ => "histogram"

/-- The name of an instrument above its samples. -/
def Instrument.title (i : Instrument) : String :=
  match i.reading with
  | .counter _ => expositionName (i.name ++ "_total")
  | _ => expositionName i.name

/-- An instrument in the exposition: what it is about, its kind, and its samples. -/
def Instrument.exposition (i : Instrument) : String :=
  "# HELP " ++ i.title ++ " " ++ i.help ++ "\n# TYPE " ++ i.title ++ " " ++ i.reading.kindName
    ++ "\n" ++ String.join (i.samples.map Sample.line)

def Registry.exposition (r : Registry) : String := String.join (r.map Instrument.exposition)

end MetricDocs
