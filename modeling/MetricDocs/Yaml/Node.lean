/-
  Putting tokens together to nodes.

  A reference is the number of the node with that anchor.  A collection has its number, and its
  anchor if it has one, before what is inside it is read.

  * `Parse` is reading from the tokens of a document with the nodes and anchors so far; `Parse.node`
    reads a node, and `blockItems`, `plainItems`, `blockPairs`, `flowItems` and `flowPairs` what is
    inside one;
  * `Graph.ofTokens` reads a whole document.
-/
import MetricDocs.Yaml.Graph
import MetricDocs.Yaml.Token

namespace MetricDocs.Yaml

/-! ## Reading from tokens -/

/-- The tokens to come and the failure behind them, the nodes so far, and the numbers of those with an
    anchor. -/
structure Rest where
  tokens : List Token
  fault : Option Failure
  graph : Graph
  anchors : List (String × Nat)

abbrev Parse := StateT Rest (Except Failure)

/-- Where a node stands: inside brackets, as an entry of a block, or as the key or value of a pair
    in a block, where entries may follow at the column of the pair itself. -/
inductive Place where
  | flow
  | entry
  | pair
  deriving DecidableEq, Repr

abbrev Handles := List (String × String)

/-- The handles that every document knows. -/
def Handles.default : Handles := [("!", "!"), ("!!", tagStart)]

namespace Parse

def malformed {α : Type} : Parse α := throw .malformedYaml

/-- The next token, if there is one.  The failure behind the last one is met here. -/
def peek : Parse (Option Token) := do
  let r ← get
  match r.tokens, r.fault with
  | t :: _, _ => return some t
  | [], none => return none
  | [], some f => throw f

def drop : Parse Unit := modify fun r => { r with tokens := r.tokens.tail }

/-- Whether the next token is one of some. -/
def sees (ts : List Token) : Parse Bool := do
  return match ← peek with
  | some t => ts.contains t
  | none => false

/-- The anchor that comes next, if one does. -/
def anchor? : Parse (Option String) := do
  match ← peek with
  | some (.anchor name) => drop; return some name
  | _ => return none

/-- The tag that comes next, if one does. -/
def tag? : Parse (Option TagName) := do
  match ← peek with
  | some (.tag name) => drop; return some name
  | _ => return none

/-- The full name of a tag.  Its handle has to have a meaning. -/
def fullName (handles : Handles) (name : TagName) : Parse String := do
  match name.handle with
  | none => return name.suffix
  | some handle =>
    match handles.lookup handle with
    | some start => return start ++ name.suffix
    | none => malformed

/-- The anchor and the full name of the tag in front of a node, in either order. -/
def properties (handles : Handles) : Parse (Option String × Option String) := do
  let first ← anchor?
  let tag ← tag?
  let anchor ← if first.isNone && tag.isSome then anchor? else pure first
  return (anchor, ← tag.mapM (fullName handles))

/-- The number of the node with an anchor. -/
def referred (name : String) : Parse Nat := do
  match (← get).anchors.lookup name with
  | some n => return n
  | none => malformed

/-- Adds a node with its anchor, if it has one. -/
def add (anchor : Option String) (n : Node) : Parse Nat := do
  let r ← get
  let number := r.graph.size
  let named := anchor.toList.map fun name => (name, number)
  set { r with graph := r.graph.push n, anchors := named ++ r.anchors }
  return number

/-- Adds the node that nothing stands for. -/
def addEmpty : Parse Nat := add none .empty

def checkAnchor (anchor : Option String) : Parse Unit := do
  match anchor with
  | some name => if ((← get).anchors.lookup name).isSome then malformed
  | none => return

/-- The kind that a tag names, or else a given one. -/
def kindOf (tag : Option String) (other : Tag) : Tag :=
  match tag with
  | some name => if name = "!" then other else Tag.ofName name
  | none => other

def scalar (anchor tag : Option String) (plain : Bool) (text : Text.Escaped) : Parse Nat :=
  let kind := if plain || tag.isSome then Tag.ofEscaped text else .text
  add anchor (.scalar (kindOf tag kind) text)

/-- A collection.  It is added before what is inside it is read, and put in place behind that. -/
def collection {α : Type} (anchor : Option String) (make : α → Node) (empty : α)
    (inside : Parse α) : Parse Nat := do
  let number ← add anchor (make empty)
  let content ← inside
  modify fun r => { r with graph := r.graph.put number (make content) }
  return number

mutual

/-- A node at a place.  The number bounds the nesting and the members. -/
def node : Nat → Handles → Place → Parse Nat
  | 0, _, _ => malformed
  | fuel + 1, handles, place => do
    if let some (.reference name) ← peek then
      drop
      return ← referred name
    let (anchor, tag) ← properties handles
    let next ← peek
    checkAnchor anchor
    let sequence := collection anchor (.sequence (kindOf tag .sequence)) []
    let mapping := collection anchor (.mapping (kindOf tag .mapping)) []
    match next with
    | some (.scalar plain text) => drop; scalar anchor tag plain text
    | some .flowSequenceStart => drop; sequence (flowItems fuel handles true)
    | some .flowMappingStart => drop; mapping (flowPairs fuel handles true)
    | some .blockEntry =>
      if place = .pair then sequence (plainItems fuel handles) else missing anchor tag
    | some .blockSequenceStart =>
      if place = .flow then missing anchor tag else drop; sequence (blockItems fuel handles)
    | some .blockMappingStart =>
      if place = .flow then missing anchor tag else drop; mapping (blockPairs fuel handles)
    | _ => missing anchor tag

/-- A node of which nothing is there but its properties. -/
def missing (anchor tag : Option String) : Parse Nat :=
  if anchor.isNone && tag.isNone then malformed else scalar anchor tag true (.string "")

/-- A node, unless one of some tokens comes next: then there is nothing. -/
def nodeUnless : Nat → Handles → Place → List Token → Parse Nat
  | 0, _, _, _ => malformed
  | fuel + 1, handles, place, stops => do
    if ← sees stops then return ← addEmpty
    node fuel handles place

/-- A value, if the token in front of one comes next. -/
def valueUnless : Nat → Handles → Place → List Token → Parse Nat
  | 0, _, _, _ => malformed
  | fuel + 1, handles, place, stops => do
    if ← sees [.value] then
      drop
      nodeUnless fuel handles place stops
    else addEmpty

def blockItems : Nat → Handles → Parse (List Nat)
  | 0, _ => malformed
  | fuel + 1, handles => do
    match ← peek with
    | some .blockEntry =>
      drop
      let item ← nodeUnless fuel handles .entry [.blockEntry, .blockEnd]
      return item :: (← blockItems fuel handles)
    | some .blockEnd => drop; return []
    | _ => malformed

/-- The entries at the column of the block around. -/
def plainItems : Nat → Handles → Parse (List Nat)
  | 0, _ => malformed
  | fuel + 1, handles => do
    if ← sees [.blockEntry] then
      drop
      let item ← nodeUnless fuel handles .entry [.blockEntry, .key, .value, .blockEnd]
      return item :: (← plainItems fuel handles)
    else return []

def blockPairs : Nat → Handles → Parse (List (Nat × Nat))
  | 0, _ => malformed
  | fuel + 1, handles => do
    match ← peek with
    | some .key =>
      drop
      let k ← nodeUnless fuel handles .pair [.key, .value, .blockEnd]
      let v ← valueUnless fuel handles .pair [.key, .value, .blockEnd]
      return (k, v) :: (← blockPairs fuel handles)
    | some .blockEnd => drop; return []
    | _ => malformed

/-- The members of a sequence in brackets to its end; all but the first are behind a comma. -/
def flowItems : Nat → Handles → Bool → Parse (List Nat)
  | 0, _, _ => malformed
  | fuel + 1, handles, first => do
    if ← sees [.flowSequenceEnd] then
      drop
      return []
    if !first then
      if ← sees [.flowEntry] then drop else malformed
    match ← peek with
    | some .flowSequenceEnd => drop; return []
    | some .key =>
      let item ← collection none (.mapping .mapping) [] do
        drop
        let k ← nodeUnless fuel handles .flow [.value, .flowEntry, .flowSequenceEnd]
        let v ← valueUnless fuel handles .flow [.flowEntry, .flowSequenceEnd]
        return [(k, v)]
      return item :: (← flowItems fuel handles false)
    | _ =>
      let item ← node fuel handles .flow
      return item :: (← flowItems fuel handles false)

/-- The pairs of a mapping in brackets to its end; all but the first are behind a comma. -/
def flowPairs : Nat → Handles → Bool → Parse (List (Nat × Nat))
  | 0, _, _ => malformed
  | fuel + 1, handles, first => do
    if ← sees [.flowMappingEnd] then
      drop
      return []
    if !first then
      if ← sees [.flowEntry] then drop else malformed
    match ← peek with
    | some .flowMappingEnd => drop; return []
    | some .key =>
      drop
      let k ← nodeUnless fuel handles .flow [.value, .flowEntry, .flowMappingEnd]
      let v ← valueUnless fuel handles .flow [.flowEntry, .flowMappingEnd]
      return (k, v) :: (← flowPairs fuel handles false)
    | _ =>
      let k ← node fuel handles .flow
      let v ← addEmpty
      return (k, v) :: (← flowPairs fuel handles false)

end

/-! ## Documents -/

/-- The directives in front of a document: whether a version is given, and the handles. -/
def directives : Nat → Bool → Handles → Parse Handles
  | 0, _, _ => malformed
  | fuel + 1, versioned, handles => do
    match ← peek with
    | some (.version major) =>
      drop
      if versioned || major ≠ 1 then malformed else directives fuel true handles
    | some (.tagHandle handle start) =>
      drop
      if (handles.lookup handle).isSome then malformed
      else directives fuel versioned ((handle, start) :: handles)
    | some .otherDirective => drop; directives fuel versioned handles
    | _ => return handles ++ Handles.default

/-- Whether a document has neither directives nor a marker in front. -/
def isBare : Token → Bool
  | .version _ | .tagHandle _ _ | .otherDirective | .documentStart => false
  | _ => true

/-- Whether the document at hand ends before a token. -/
def endsDocument (t : Token) : Bool := !isBare t || t = .documentEnd

/-- The one document in the tokens; nothing stands for an empty node. -/
def document : Parse Nat := do
  let fuel := 4 * (← get).tokens.length + 4
  match ← peek with
  | none => addEmpty
  | some t =>
    if isBare t then node fuel Handles.default .entry
    else
      let handles ← directives fuel false []
      if !(← sees [.documentStart]) then malformed
      drop
      match ← peek with
      | none => addEmpty
      | some t => if endsDocument t then addEmpty else node fuel handles .entry

/-- Refuses another document, when the directives in front of it have been read. -/
def refuse : Nat → Parse Unit
  | 0 => malformed
  | fuel + 1 => do
    match ← peek with
    | some (.version _) | some (.tagHandle _ _) | some .otherDirective => drop; refuse fuel
    | _ => malformed

/-- The end of the tokens.  Markers of the end of the document may come before, and nothing else. -/
def finish : Nat → Parse Unit
  | 0 => malformed
  | fuel + 1 => do
    match ← peek with
    | none => return
    | some .documentEnd => drop; finish fuel
    | some _ => refuse fuel

end Parse

/-- The nodes of a document and the number of the outermost one. -/
def Graph.ofTokens (ts : Tokens) : Except Failure (Graph × Nat) := do
  let (n, rest) ← (do
    let n ← Parse.document
    Parse.finish (ts.words.length + 1)
    return n : Parse Nat).run ⟨ts.words, ts.fault, #[], []⟩
  return (rest.graph, n)

end MetricDocs.Yaml
