/-
  Collections: sequences, sets and mappings that may be shared or lie inside themselves.

  * `Part` is what a collection holds: a scalar, or another collection by its number;
  * `Collection` is a list, a list of pairs, a set or a mapping;
  * `Collections.entries?` looks into a part that is a mapping, and `Collections.bare` is what a part is
    without looking into it.
-/
import MetricDocs.Value.Basic

namespace MetricDocs.Yaml

/-- What a collection holds: a value of its own, or the collection with a number. -/
inductive Part where
  | value (v : Value)
  | collection (n : Nat)
  deriving Inhabited

/-- A collection.  Keys are always scalars. -/
inductive Collection where
  | list (parts : List Part)
  | pairs (parts : List (Part × Part))
  | set (keys : List Key)
  | mapping (fields : List (Key × Part))
  deriving Inhabited

/-- The collections of a document by number. -/
abbrev Collections := Array Collection

namespace Collections

/-- The collection with a number; one that is not there counts as an empty list. -/
def collection (cs : Collections) (n : Nat) : Collection := cs[n]?.getD (.list [])

/-- The entries of a part that is a mapping. -/
def entries? (cs : Collections) : Part → Option (List (Key × Part))
  | .value _ => none
  | .collection n =>
    match cs.collection n with
    | .mapping fields => some fields
    | _ => none

/-- Whether a part is null, false, zero or empty. -/
def isVacant (cs : Collections) : Part → Bool
  | .value v => v.isVacant
  | .collection n =>
    match cs.collection n with
    | .list parts => parts.isEmpty
    | .pairs parts => parts.isEmpty
    | .set keys => keys.isEmpty
    | .mapping fields => fields.isEmpty

/-- A part without what is inside it: a collection counts as an empty one. -/
def bare (cs : Collections) : Part → Value
  | .value v => v
  | .collection n =>
    match cs.collection n with
    | .list _ | .pairs _ => .list []
    | .set _ => .set []
    | .mapping _ => .mapping []

end Collections

end MetricDocs.Yaml
