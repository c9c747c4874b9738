/-
  Cutting a document into tokens.

  A scalar, a reference or a bracket may turn out to be a key once the colon behind it is read; then
  the token of the key is put in front of it after all.  So the lexer remembers, for every level of
  brackets, the last place where such a key may have begun.

  * `Lexer` is the state of the reading; `Lexer.push`, `Lexer.indentTo` and `Lexer.unwind` are its
    small steps;
  * `Lexer.step` reads one token, `Lexer.word` by its first character;
  * `Tokens.ofSource` cuts up a whole document, or as much of it as comes before a failure.
-/
import MetricDocs.Yaml.Token.Block
import MetricDocs.Yaml.Token.Name
import MetricDocs.Yaml.Token.Quoted

namespace MetricDocs.Yaml

/-- A place where a key may have begun: the number of tokens before it, and whether it has to be a
    key because nothing else can stand there. -/
structure KeyPlace where
  tokens : Nat
  required : Bool
  index : Nat
  line : Nat
  column : Nat

/-- The state of reading: the place; the tokens so far; the column of the block around, which is -1
    outside of all blocks, and those of the blocks further out; the places where a key may have
    begun, for each level of brackets from the inside out; and whether a key may begin here. -/
structure Lexer where
  cursor : Cursor
  tokens : Array Token
  indent : Int
  outer : List Int
  places : List (Option KeyPlace)
  keyAllowed : Bool

namespace Lexer

def start (s : Source) : Lexer := ⟨.start s, #[], -1, [], [none], true⟩

/-- Whether the place is inside brackets. -/
def inFlow (l : Lexer) : Bool := 1 < l.places.length

def push (l : Lexer) (t : Token) (c : Cursor) : Lexer :=
  { l with tokens := l.tokens.push t, cursor := c }

/-- The place of the key of this level, if there is one. -/
def place? (l : Lexer) : Option KeyPlace := (l.places.head?).join

/-- Sets the place of the key of this level. -/
def setPlace (l : Lexer) (p : Option KeyPlace) : Lexer := { l with places := p :: l.places.tail }

/-- Whether a key may still go on from a place: on the same line, and not too far. -/
def fresh (c : Cursor) (p : KeyPlace) : Bool := p.line = c.line && c.index - p.index ≤ 1024

/-- Forgets the places from which no key can go on; none of them may be required. -/
def dropStale (l : Lexer) : Except Failure Lexer :=
  if l.places.any fun p => p.any fun p => !fresh l.cursor p && p.required then .error .malformedYaml
  else .ok { l with places := l.places.map fun p => p.filter (fresh l.cursor) }

/-- Forgets the place of this level, which may not be required. -/
def dropPlace (l : Lexer) : Except Failure Lexer :=
  if l.place?.any (·.required) then .error .malformedYaml else .ok (l.setPlace none)

/-- Remembers this place as one where a key may begin, if that is so. -/
def keepPlace (l : Lexer) : Except Failure Lexer :=
  if l.keyAllowed then do
    let c := l.cursor
    let required := !l.inFlow && l.indent = c.column
    let l ← l.dropPlace
    return l.setPlace (some ⟨l.tokens.size, required, c.index, c.line, c.column⟩)
  else .ok l

/-- Allows or forbids a key at the next place. -/
def allowing (l : Lexer) (b : Bool) : Lexer := { l with keyAllowed := b }

/-- Ends the blocks that are indented further than a column; inside brackets there are none. -/
def unwind (l : Lexer) (column : Int) : Lexer :=
  if l.inFlow then l
  else
    let columns := l.indent :: l.outer
    let ended := columns.takeWhile (column < ·)
    let left := columns.drop ended.length
    { l with
      tokens := l.tokens ++ Array.replicate ended.length Token.blockEnd
      indent := left.headD (-1)
      outer := left.tail }

/-- Begins a block at a column if it is indented further than the block around; the token of its
    begin is put at a given place among the tokens. -/
def indentTo (l : Lexer) (column : Nat) (t : Token) (place : Nat) : Lexer :=
  if l.indent < column then
    { l with
      tokens := l.tokens.insertIdxIfInBounds place t
      indent := column
      outer := l.indent :: l.outer }
  else l

/-! ## What may come between tokens -/

/-- The place of the next token, and whether a line began before it. -/
def skipGaps : Nat → Cursor → Bool → Except Failure (Cursor × Bool)
  | 0, c, broken => .ok (c, broken)
  | fuel + 1, c, broken => do
    let c ← (← c.skipSpaces).skipComment
    match ← c.peek with
    | some d => if isBreak d then skipGaps fuel (← c.forward 1) true else return (c, broken)
    | none => return (c, broken)

/-- The place behind a byte order mark at the begin of a document. -/
def behindMark (c : Cursor) : Except Failure Cursor := do
  if c.index = 0 && (← c.sees '\ufeff') then c.forward 1 else return c

/-- Goes to the next token.  Outside of brackets a key may begin on a new line. -/
def toToken (l : Lexer) : Except Failure Lexer := do
  let (c, broken) ← skipGaps (l.cursor.rest.length + 1) (← behindMark l.cursor) false
  return { l with cursor := c, keyAllowed := l.keyAllowed || (broken && !l.inFlow) }

/-! ## Tokens -/

/-- Ends all blocks, in front of a directive or a marker between documents. -/
def ending (l : Lexer) : Except Failure Lexer := do
  return (← (l.unwind (-1)).dropPlace).allowing false

/-- A token that may be a key or the begin of one: a scalar in quotes, a reference, an anchor or a
    tag. -/
def content (l : Lexer) (read : Cursor → Except Failure (Token × Cursor)) : Except Failure Lexer := do
  let l ← l.keepPlace
  let (t, c) ← read l.cursor
  return (l.allowing false).push t c

def opening (l : Lexer) (t : Token) : Except Failure Lexer := do
  let l := (← l.keepPlace).push t (← l.cursor.forward 1)
  return { l with places := none :: l.places, keyAllowed := true }

/-- A closing bracket; there has to be an opening one. -/
def closing (l : Lexer) (t : Token) : Except Failure Lexer := do
  let l ← l.dropPlace
  let c ← l.cursor.forward 1
  match l.places with
  | _ :: p :: ps => return ({ l with places := p :: ps, keyAllowed := false }).push t c
  | _ => throw .malformedYaml

/-- A comma. -/
def separator (l : Lexer) : Except Failure Lexer := do
  return ((← l.dropPlace).allowing true).push .flowEntry (← l.cursor.forward 1)

/-- A mark that begins an entry or a pair, with the block around it if that is new. -/
def mark (l : Lexer) (begin t : Token) (allow : Bool) : Except Failure Lexer := do
  if !l.inFlow && !l.keyAllowed then throw .malformedYaml
  let l := if l.inFlow then l else l.indentTo l.cursor.column begin l.tokens.size
  return ((← l.dropPlace).allowing allow).push t (← l.cursor.forward 1)

/-- A colon.  What began at the place of the key is a key after all. -/
def colon (l : Lexer) : Except Failure Lexer := do
  match l.place? with
  | some p =>
    let l := l.setPlace none
    let l := { l with tokens := l.tokens.insertIdxIfInBounds p.tokens .key }
    let l := if l.inFlow then l else l.indentTo p.column .blockMappingStart p.tokens
    return (l.allowing false).push .value (← l.cursor.forward 1)
  | none => l.mark .blockMappingStart .value (!l.inFlow)

def block (l : Lexer) (folded : Bool) : Except Failure Lexer := do
  let l ← l.dropPlace
  let (text, c) ← blockScalar folded l.indent l.cursor
  return (l.allowing true).push (.scalar false (.string (String.ofList text))) c

def plain (l : Lexer) : Except Failure Lexer := do
  let l ← l.keepPlace
  let s ← plainScalar l.inFlow (l.indent + 1) l.cursor
  return (l.allowing s.broken).push (.scalar true (.string (String.ofList s.text))) s.cursor

/-- Whether a gap or the end follows behind the next character. -/
def standsAlone (l : Lexer) : Except Failure Bool := return endsWord (← l.cursor.second)

/-- Whether a character that marks entries and pairs does so here: inside brackets always, otherwise
    before a gap. -/
def marks (l : Lexer) : Except Failure Bool := do
  if l.inFlow then return true else l.standsAlone

/-- Whether a plain scalar begins with a character.  One of the marks does if a word goes on. -/
def beginsPlain (l : Lexer) (d : Char) : Except Failure Bool := do
  if isGap d || "-?:,[]\x7b\x7d#&*!|>'\"%@`".toList.contains d then
    return !(← l.standsAlone) && (d = '-' || (!l.inFlow && (d = '?' || d = ':')))
  else return true

/-- Whether a marker between documents made of a character begins here. -/
def atMarker (l : Lexer) (d : Char) : Except Failure Bool := do
  if l.cursor.column = 0 then l.cursor.atTriple d else return false

/-- Reads the token that begins with a character. -/
def word (l : Lexer) (d : Char) : Except Failure Lexer := do
  let c := l.cursor
  if d = '%' && c.column = 0 then
    let l ← l.ending
    let (t, c) ← directive c
    return l.push t c
  if d = '-' then
    if ← l.atMarker d then return (← l.ending).push .documentStart (← c.forward 3)
  if d = '.' then
    if ← l.atMarker d then return (← l.ending).push .documentEnd (← c.forward 3)
  if d = '[' then return ← l.opening .flowSequenceStart
  if d = '{' then return ← l.opening .flowMappingStart
  if d = ']' then return ← l.closing .flowSequenceEnd
  if d = '}' then return ← l.closing .flowMappingEnd
  if d = ',' then return ← l.separator
  if d = '-' then
    if ← l.standsAlone then return ← l.mark .blockSequenceStart .blockEntry true
  if d = '?' then
    if ← l.marks then return ← l.mark .blockMappingStart .key (!l.inFlow)
  if d = ':' then
    if ← l.marks then return ← l.colon
  if d = '*' then return ← l.content fun c => do
    let (name, c) ← anchorName c
    return (.reference name, c)
  if d = '&' then return ← l.content fun c => do
    let (name, c) ← anchorName c
    return (.anchor name, c)
  if d = '!' then return ← l.content fun c => do
    let (name, c) ← tagName c
    return (.tag name, c)
  if d = '|' && !l.inFlow then return ← l.block false
  if d = '>' && !l.inFlow then return ← l.block true
  if d = '\'' || d = '"' then
    return ← l.content fun c => do
      let (text, c) ← quotedScalar d c
      return (.scalar false text, c)
  if ← l.beginsPlain d then l.plain else throw .malformedYaml

/-- Reads one more token with the ends of blocks before it.  At the end of the document all blocks
    end, and there is no lexer left, only tokens. -/
def step (l : Lexer) : Except Failure (Lexer ⊕ List Token) := do
  let l ← (← l.toToken).dropStale
  let l := l.unwind l.cursor.column
  match ← l.cursor.peek with
  | none => return .inr (← l.ending).tokens.toList
  | some d => return .inl (← l.word d)

/-- The tokens that can be told when reading fails behind them: those in front of which no key can be
    put any more. -/
def before (l : Lexer) (f : Failure) : Tokens :=
  match l.dropStale with
  | .error stale => ⟨[], some stale⟩
  | .ok l =>
    let told := (l.places.filterMap fun p => p.map (·.tokens)).foldl min l.tokens.size
    ⟨l.tokens.toList.take told, some f⟩

/-- Reads tokens to the end; the number bounds them. -/
def run : Nat → Lexer → Tokens
  | 0, _ => ⟨[], some .malformedYaml⟩
  | fuel + 1, l =>
    match l.step with
    | .ok (.inl l) => run fuel l
    | .ok (.inr ts) => ⟨ts, none⟩
    | .error f => l.before f

end Lexer

/-- The tokens of a document; every one takes at least one character of it. -/
def Tokens.ofSource (s : Source) : Tokens := Lexer.run (s.text.length + 2) (Lexer.start s)

end MetricDocs.Yaml
