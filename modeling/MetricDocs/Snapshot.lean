/-
  Snapshots: metrics assembled into one object per component.

  A snapshot maps object names to objects.  A new object starts with its own name under `metric`
  and the first segment of the path under `component`; every metric is written into its object at
  the segments of its field, later metrics over earlier ones.

  * `Dropped` is a metric whose field leads through a value that is there already;
  * `Snapshot.add` writes one metric, and `Snapshot.addAll` a stream of them up to the first that
    fails.
-/
import MetricDocs.Path
import MetricDocs.Value.Nested

namespace MetricDocs

/-- A metric that was not written because its field leads through another value. -/
structure Dropped where
  path : String
  group : Path.Group
  deriving DecidableEq, Repr

/-- What is said about a dropped metric. -/
def Dropped.message (d : Dropped) : String :=
  "Dropping metric '" ++ d.path ++ "': '" ++ d.group.field ++
    "' conflicts with an existing value in object '" ++ d.group.object ++ "'"

/-- The objects by name, in the order of their first metric, and the metrics that were dropped. -/
structure Snapshot where
  objects : Fields
  dropped : List Dropped

namespace Snapshot

def empty : Snapshot := ⟨[], []⟩

/-- The object that starts a component. -/
def newObject (name component : String) : Value :=
  .mapping [(.text "metric", .text name), (.text "component", .text component)]

/-- The object of a given name, new if there is none yet. -/
def objectFor (objects : Fields) (name component : String) : Value :=
  match Fields.get? objects (.text name) with
  | none | some .null => newObject name component
  | some v => v

def add (s : Snapshot) (path : String) (v : Value) : Except Failure Snapshot :=
  match Path.group path with
  | .error e => .error e
  | .ok g =>
    let object := objectFor s.objects g.object (Path.head path)
    match object.place (Path.segments g.field) v with
    | .error e => .error e
    | .ok (some written) => .ok { s with objects := Fields.put s.objects (.text g.object) written }
    | .ok none =>
      .ok ⟨Fields.put s.objects (.text g.object) object, s.dropped ++ [⟨path, g⟩]⟩

/-- Writes a stream of metrics in order: the snapshot up to the first failure, and that failure. -/
def addAll (s : Snapshot) : List (String × Value) → Snapshot × Option Failure
  | [] => (s, none)
  | (path, v) :: stream =>
    match s.add path v with
    | .error e => (s, some e)
    | .ok t => t.addAll stream

/-- Writes several streams in order, up to the first failure. -/
def addStreams (s : Snapshot) : List (List (String × Value)) → Snapshot × Option Failure
  | [] => (s, none)
  | stream :: rest =>
    match s.addAll stream with
    | (t, none) => t.addStreams rest
    | (t, some e) => (t, some e)

end Snapshot

end MetricDocs
