/-
  Nested mappings: reading, writing and merging along sequences of keys.

  * `Value.at?` reads a value along a sequence of keys;
  * `Fields.walk` writes a value along a path of texts, making levels that are missing or null on
    its way; a path that leads through any other value is refused;
  * `Fields.merge` lays one mapping over another, level by level where both hold mappings;
  * `Value.place` and `Value.merge` are the same on any value, with the failures of values that
    are no mappings.
-/
import MetricDocs.Value.Basic
import MetricDocs.Failure

namespace MetricDocs

/-! ## Reading -/

/-- The value that a sequence of keys leads to. -/
def Value.at? : Value → List Key → Option Value
  | v, [] => some v
  | .mapping fields, k :: ks =>
    match Fields.get? fields k with
    | some w => w.at? ks
    | none => none
  | _, _ :: _ => none

/-! ## Writing -/

namespace Fields

/-- Walks along a path and writes `v` at its end: the mapping after the walk, and whether the walk
    came to the end.  A level is made before the walk goes on below it, and any value that is neither
    missing nor null nor a mapping ends the walk. -/
def walk (fields : Fields) (path : List String) (v : Value) : Fields × Bool :=
  match path with
  | [] => (fields, true)
  | [s] => (put fields (.text s) v, true)
  | s :: t :: rest =>
    match get? fields (.text s) with
    | none | some .null =>
      let (child, done) := walk [] (t :: rest) v
      (put fields (.text s) (.mapping child), done)
    | some (.mapping inner) =>
      let (child, done) := walk inner (t :: rest) v
      (put fields (.text s) (.mapping child), done)
    | some _ => (fields, false)

end Fields

/-- Writes `v` at a path of any value: the value after the write, or nothing if it was refused.
    Only mappings can be written to. -/
def Value.place (root : Value) (path : List String) (v : Value) : Except Failure (Option Value) :=
  match root, path with
  | root, [] => .ok (some root)
  | .mapping fields, s :: rest =>
    match Fields.walk fields (s :: rest) v with
    | (written, true) => .ok (some (.mapping written))
    | (_, false) => .ok none
  | .list _, [_] => .error .textIndex
  | root, [_] => .error (.noAssignment root.kindName)
  | root, _ :: _ :: _ => .error (.noAttribute root.kindName "get")

/-! ## Merging -/

mutual

/-- Lays the entries of the second mapping over the first, one after another. -/
def Fields.merge (base : Fields) : Fields → Fields
  | [] => base
  | (k, v) :: overlay =>
    Fields.merge (Fields.put base k (v.laidOn (Fields.get? base k))) overlay

/-- A value laid over what is there: two mappings are merged, anything else is replaced. -/
def Value.laidOn (existing : Option Value) : Value → Value
  | .mapping overlay =>
    match existing with
    | some (.mapping base) => .mapping (Fields.merge base overlay)
    | _ => .mapping overlay
  | v => v

end

/-- Lays one value over another; both have to be mappings, the lower one only if there is an entry
    to lay over it. -/
def Value.merge (base overlay : Value) : Except Failure Value :=
  match base, overlay with
  | .mapping fields, .mapping upper => .ok (.mapping (Fields.merge fields upper))
  | base, .mapping [] => .ok base
  | base, .mapping (_ :: _) => .error (.noAttribute base.kindName "get")
  | _, overlay => .error (.noAttribute overlay.kindName "items")

end MetricDocs
