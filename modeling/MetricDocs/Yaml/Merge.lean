/-
  Mappings that take over the entries of others.

  Under the key `<<` a mapping names another one, or a sequence of others, whose entries it takes
  over.  They come in front of its own, so that its own count more; of several mappings in a sequence
  the first counts most.  A mapping that is taken over takes over its own before, and keeps them.

  * `Merging` is work on the nodes of a document;
  * `flatten` puts the entries taken over into a mapping; beside it a key `=` becomes a text.
-/
import MetricDocs.Failure
import MetricDocs.Yaml.Graph

namespace MetricDocs.Yaml

abbrev Merging := StateT Graph (Except Failure)

namespace Merging

def node (n : Nat) : Merging Node := do return (← get).node n

def entries (n : Nat) : Merging (List (Nat × Nat)) := do return (← get).entries n

def change (n : Nat) (f : Node → Node) : Merging Unit :=
  modify fun g => g.put n (f (g.node n))

mutual

/-- Puts the entries taken over into a mapping.  The number bounds the work. -/
def flatten : Nat → Nat → Merging Unit
  | 0, _ => throw .endless
  | fuel + 1, n => flattenFrom fuel n 0 []

/-- Goes on with the entry at a place, when some entries have been taken over.  What is taken over
    last may have changed the mapping itself. -/
def flattenFrom : Nat → Nat → Nat → List (Nat × Nat) → Merging Unit
  | 0, _, _, _ => throw .endless
  | fuel + 1, n, i, taken => do
    let own ← entries n
    match own[i]? with
    | none => change n (Node.withEntries (taken ++ own))
    | some (k, v) =>
      match (← get).tag k with
      | .merge =>
        change n (Node.withEntries (own.eraseIdx i))
        let given ← given fuel v
        flattenFrom fuel n i (taken ++ given)
      | .value =>
        change k (Node.withTag .text)
        flattenFrom fuel n (i + 1) taken
      | _ => flattenFrom fuel n (i + 1) taken

/-- The entries that a mapping or a sequence of mappings gives away. -/
def given : Nat → Nat → Merging (List (Nat × Nat))
  | 0, _ => throw .endless
  | fuel + 1, n => do
    match ← node n with
    | .mapping _ _ =>
      flatten fuel n
      entries n
    | .sequence _ items => return (← givenAll fuel items).reverse.flatten
    | .scalar _ _ => throw .malformedYaml

/-- The entries that each of some mappings gives away. -/
def givenAll : Nat → List Nat → Merging (List (List (Nat × Nat)))
  | 0, _ => throw .endless
  | _ + 1, [] => return []
  | fuel + 1, n :: ns => do
    match ← node n with
    | .mapping _ _ =>
      flatten fuel n
      let first ← entries n
      return first :: (← givenAll fuel ns)
    | _ => throw .malformedYaml

end

end Merging

/-- Puts the entries that a mapping takes over into it.  What it can take over at all is bounded by the
    number of nodes. -/
def Graph.flattened (g : Graph) (n : Nat) : Except Failure Graph := do
  let (_, g) ← (Merging.flatten (Nat.pow 2 (g.size + 6)) n).run g
  return g

end MetricDocs.Yaml
