/-
  Metric paths and how they are grouped.

  A path is a text of segments joined by dots.  An index segment is a whole number in decimal that
  fits 64 bits.  The object of a path is named by its segments up to the rightmost index, and the
  field by the segments behind it; a path without an index belongs to the object named by its first
  segment and keeps its whole text as field, and a path of one segment is object and field in one.

  * `segments` and `join` take a path apart and put it together;
  * `isIndex` tests a segment; a run of digits too long to convert is a failure;
  * `splitAtIndex` looks for the rightmost index from right to left;
  * `group` gives the object and the field.
-/
import MetricDocs.Failure

namespace MetricDocs.Path

/-- The segments of a path: the texts between its dots. -/
def segments (path : String) : List String :=
  (path.toList.splitOn '.').map String.ofList

/-- The path of a list of segments. -/
def join (segs : List String) : String :=
  String.ofList (['.'].intercalate (segs.map String.toList))

/-- The first segment of a path. -/
def head (path : String) : String :=
  String.ofList (path.toList.takeWhile (· ≠ '.'))

/-- The characters behind one optional sign. -/
def unsigned : List Char → List Char
  | '+' :: cs => cs
  | '-' :: cs => cs
  | cs => cs

/-- Whether a text begins with a minus sign. -/
def isMinus : List Char → Bool
  | '-' :: _ => true
  | _ => false

/-- The number that an optional sign and digits denote. -/
def signedValue (cs : List Char) : Int :=
  let n : Int := Decimal.ofDigits (unsigned cs)
  if isMinus cs then -n else n

/-- Whether a segment is an index: an optional sign and ASCII digits that denote a number of 64
    bits.  Digits beyond `Decimal.maxDigits` are a failure. -/
def isIndex (segment : String) : Except Failure Bool :=
  let digits := unsigned segment.toList
  if digits.isEmpty || !digits.all Char.isDigit then .ok false
  else if digits.length > Decimal.maxDigits then .error (.tooManyDigits (some digits.length))
  else
    let n := signedValue segment.toList
    .ok (-0x8000000000000000 ≤ n && n ≤ 0x7fffffffffffffff)

/-- The segments up to the rightmost index, and those behind it.  Segments are tested from right
    to left, and a failure counts only if no index lies to its right. -/
def splitAtIndex : List String → Except Failure (Option (List String × List String))
  | [] => .ok none
  | s :: rest =>
    match splitAtIndex rest with
    | .error e => .error e
    | .ok (some (front, back)) => .ok (some (s :: front, back))
    | .ok none =>
      match isIndex s with
      | .error e => .error e
      | .ok true => .ok (some ([s], rest))
      | .ok false => .ok none

/-- The object that a path belongs to, and the field of it that the path names. -/
structure Group where
  object : String
  field : String
  deriving DecidableEq, Repr

/-- The object and field of a path. -/
def group (path : String) : Except Failure Group :=
  match segments path with
  | [] | [_] => .ok ⟨path, path⟩
  | s :: rest =>
    match splitAtIndex (s :: rest) with
    | .error e => .error e
    | .ok (some (front, back)) => .ok ⟨join front, join back⟩
    | .ok none => .ok ⟨s, path⟩

end MetricDocs.Path
