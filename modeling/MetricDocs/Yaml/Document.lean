/-
  What documents say.

  Nodes are turned into parts from the outside in: a collection is there at once, and what is inside
  it follows when the collections met before it are complete.  So what fails furthest out fails first,
  and a collection that lies inside itself is no difficulty.  Of equal keys the last value counts, at
  the place of the first.

  * `Making` is what is known on the way, `make` the part of a node, `complete` what is inside one;
  * `Document` is what comes of it;
  * `Document.rootFields?` are the fields of the outermost mapping, `Document.withFields` changes those
    of a mapping wherever it is referred to;
  * `parse` reads the document of a source.
-/
import MetricDocs.Yaml.Collection
import MetricDocs.Yaml.Merge
import MetricDocs.Yaml.Node
import MetricDocs.Yaml.Scalar
import MetricDocs.Yaml.Token.Lexer

namespace MetricDocs.Yaml

/-! ## Making parts -/

/-- A part that has been made.  A number that equals no other, not even itself, is told by `mark` from
    those that were made apart from it. -/
structure Made where
  part : Part
  mark : Nat

/-- What is known on the way: the nodes, the parts made, the collections, and those of them that are
    to be completed. -/
structure Progress where
  graph : Graph
  made : Array (Option Made)
  collections : Collections
  waiting : List Nat

abbrev Making := StateT Progress (Except Failure)

/-- A key on the way, with the mark of its number. -/
abbrev MarkedKey := Key × Nat

/-- Whether a key is a number that is not equal to itself. -/
def isOddKey (k : Key) : Bool := !k.same k

/-- Whether two keys are the same: equal, or one number that equals no other. -/
def MarkedKey.same (k l : MarkedKey) : Bool :=
  k.1.same l.1 || (isOddKey k.1 && isOddKey l.1 && k.2 = l.2)

/-- Sets a marked key of entries: in place if it is there, otherwise behind the other entries. -/
def withMarked (fields : List (MarkedKey × Part)) (k : MarkedKey) (p : Part) :
    List (MarkedKey × Part) :=
  if fields.any fun f => f.1.same k then
    fields.map fun f => if f.1.same k then (f.1, p) else f
  else fields ++ [(k, p)]

namespace Making

def malformed {α : Type} : Making α := throw .malformedYaml

def node (n : Nat) : Making Node := do return (← get).graph.node n

/-- What the node with a number has been made, if it has been. -/
def made? (n : Nat) : Making (Option Made) := do return ((← get).made[n]?).join

/-- A collection: it is there at once and is completed later. -/
def begin (n : Nat) : Making Made := do
  modify fun p => { p with waiting := p.waiting ++ [n] }
  return ⟨.collection n, 0⟩

/-- A scalar.  A date is asked for its own text, and a mapping has none. -/
def scalar (tag : Tag) (n : Nat) : Making Made := do
  let text ← (← get).graph.text n
  if tag = .timestamp then
    if let .mapping _ _ := ← node n then throw (.textExpected "list")
  let v ← escapedValue tag text
  return ⟨.value v, if namesNan text then 0 else n + 1⟩

/-- The part of a node; every node is turned into one only once. -/
def make (n : Nat) : Making Made := do
  match ← made? n with
  | some m => return m
  | none =>
    let tag := (← node n).tag
    let m ← match tag with
      | .sequence | .mapping | .set | .orderedMap | .pairs => begin n
      | .null | .bool | .int | .float | .text | .binary | .timestamp => scalar tag n
      | .merge | .value | .unknown => malformed
    modify fun p => { p with made := p.made.setIfInBounds n (some m) }
    return m

/-- The key that a node is; a collection is none. -/
def makeKey (n : Nat) : Making MarkedKey := do
  let m ← make n
  match m.part with
  | .value v =>
    match v.toKey? with
    | some k => return (k, m.mark)
    | none => malformed
  | .collection _ => malformed

/-! ## Completing collections -/

/-- The entries of a mapping behind others. -/
def entries : List (Nat × Nat) → List (MarkedKey × Part) → Making (List (MarkedKey × Part))
  | [], fields => return fields
  | (k, v) :: es, fields => do
    let key ← makeKey k
    let value ← make v
    entries es (withMarked fields key value.part)

/-- The entries of the mapping with a number, with those that it takes over. -/
def fields (n : Nat) : Making (List (Key × Part)) := do
  match ← node n with
  | .mapping _ _ =>
    let graph ← (← get).graph.flattened n
    modify fun p => { p with graph := graph }
    return (← entries (graph.entries n) []).map fun f => (f.1.1, f.2)
  | _ => malformed

/-- The parts of the items of a sequence. -/
def items (n : Nat) : Making (List Part) := do
  match ← node n with
  | .sequence _ items => items.mapM fun i => return (← make i).part
  | _ => malformed

/-- The key and the value of a mapping with one entry. -/
def pair (n : Nat) : Making (Part × Part) := do
  match ← node n with
  | .mapping _ [(k, v)] =>
    let key ← make k
    let value ← make v
    return (key.part, value.part)
  | _ => malformed

/-- The pairs in a sequence of mappings with one entry each. -/
def pairs (n : Nat) : Making (List (Part × Part)) := do
  match ← node n with
  | .sequence _ items => items.mapM pair
  | _ => malformed

/-- What the collection with a number holds. -/
def content (n : Nat) : Making Collection := do
  match (← node n).tag with
  | .sequence => return .list (← items n)
  | .orderedMap | .pairs => return .pairs (← pairs n)
  | .set => return .set ((← fields n).map (·.1))
  | _ => return .mapping (← fields n)

/-- Completes the collections that are waiting, the first one first.  Every node waits at most once, so
    their number bounds the work. -/
def complete : Nat → Making Unit
  | 0 => return
  | fuel + 1 => do
    match (← get).waiting with
    | [] => return
    | n :: ns =>
      modify fun p => { p with waiting := ns }
      let c ← content n
      modify fun p => { p with collections := p.collections.setIfInBounds n c }
      complete fuel

end Making

/-! ## Documents -/

/-- What a document says: its outermost part, and the collections in it. -/
structure Document where
  root : Part
  collections : Collections

namespace Document

/-- The document of nodes of which one is the outermost. -/
def ofGraph (g : Graph) (root : Nat) : Except Failure Document := do
  let start : Progress := ⟨g, Array.replicate g.size none, Array.replicate g.size (.list []), []⟩
  let (part, p) ← (do
    let m ← Making.make root
    Making.complete (g.size + 1)
    return m.part : Making Part).run start
  return ⟨part, p.collections⟩

/-- The outermost mapping by its number and its fields, if there is one. -/
def rootFields? (d : Document) : Option (Nat × List (Key × Part)) :=
  match d.root with
  | .value _ => none
  | .collection n =>
    match d.collections.collection n with
    | .mapping fields => some (n, fields)
    | _ => none

/-- Puts other fields into the mapping with a number, wherever it is referred to. -/
def withFields (d : Document) (n : Nat) (fields : List (Key × Part)) : Document :=
  { d with collections := d.collections.setIfInBounds n (.mapping fields) }

/-- Adds a mapping, to which nothing refers yet, and gives its number. -/
def withMapping (d : Document) (fields : List (Key × Part)) : Nat × Document :=
  (d.collections.size, { d with collections := d.collections.push (.mapping fields) })

/-- The document whose outermost mapping has no fields. -/
def empty : Document := ⟨.collection 0, #[.mapping []]⟩

end Document

/-! ## Sources -/

def parse (s : Source) : Except Failure Document := do
  let (g, root) ← Graph.ofTokens (Tokens.ofSource s)
  Document.ofGraph g root

end MetricDocs.Yaml
