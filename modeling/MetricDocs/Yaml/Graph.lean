/-
  Nodes: what a document is made of once its tokens are put together.

  Every node has a number, and a collection refers to what is inside it by numbers.  So a reference
  is the number of the node it stands for, and a node may lie inside itself.

  * `Node` is a scalar, a sequence or a mapping with its tag;
  * `Graph` holds the nodes of a document by number;
  * `Graph.text` is the text that a node stands for where a scalar is asked for.
-/
import MetricDocs.Yaml.Tag

namespace MetricDocs.Yaml

/-- A node; the nodes inside it are given by their numbers. -/
inductive Node where
  | scalar (tag : Tag) (text : Text.Escaped)
  | sequence (tag : Tag) (items : List Nat)
  | mapping (tag : Tag) (entries : List (Nat × Nat))
  deriving Repr

namespace Node

/-- The node that nothing at all stands for. -/
def empty : Node := .scalar .null (.string "")

def tag : Node → Tag
  | scalar tag _ | sequence tag _ | mapping tag _ => tag

def withTag (tag : Tag) : Node → Node
  | scalar _ text => scalar tag text
  | sequence _ items => sequence tag items
  | mapping _ entries => mapping tag entries

/-- The mapping with other entries; other nodes stay as they are. -/
def withEntries (entries : List (Nat × Nat)) : Node → Node
  | mapping tag _ => mapping tag entries
  | n => n

end Node

abbrev Graph := Array Node

namespace Graph

/-- The node with a number; one that is not there counts as nothing. -/
def node (g : Graph) (n : Nat) : Node := g[n]?.getD .empty

def tag (g : Graph) (n : Nat) : Tag := (g.node n).tag

/-- The entries of a mapping; other nodes have none. -/
def entries (g : Graph) (n : Nat) : List (Nat × Nat) :=
  match g.node n with
  | .mapping _ entries => entries
  | _ => []

def put (g : Graph) (n : Nat) (node : Node) : Graph := g.setIfInBounds n node

/-- Follows the values of keys `=` from mapping to mapping up to a text; `fuel` bounds their number. -/
def textWithin (g : Graph) : Nat → Nat → Except Failure Text.Escaped
  | 0, _ => .error .endless
  | fuel + 1, n =>
    match g.node n with
    | .scalar _ text => .ok text
    | .mapping _ entries =>
      match entries.find? fun e => g.tag e.1 = .value with
      | some e => textWithin g fuel e.2
      | none => .error .malformedYaml
    | .sequence _ _ => .error .malformedYaml

/-- The text of a scalar.  A mapping stands for the value of its key `=`; one that comes back to itself
    that way stands for nothing. -/
def text (g : Graph) (n : Nat) : Except Failure Text.Escaped := g.textWithin (g.size + 1) n

end Graph

end MetricDocs.Yaml
