/-
  Places in a document.

  * `isBreak`, `isGap` and `endsWord` are the classes of characters by which a document is cut up;
  * a `Cursor` is a place in a document: what is still to be read, and where that begins;
    `Cursor.ahead` looks further on, `Cursor.forward` goes there, and both fail where the document
    cannot be read that far;
  * `Cursor.atMarker` recognises the two markers between documents.
-/
import MetricDocs.Yaml.Source

namespace MetricDocs.Yaml

/-! ## Characters -/

/-- A character that ends a line.  Line ends of other forms are made into these before. -/
def isBreak (c : Char) : Bool :=
  c = '\n' || c = '\x85' || c = '\u2028' || c = '\u2029'

/-- A blank inside a line. -/
def isBlank (c : Char) : Bool := c = ' ' || c = '\t'

def isGap (c : Char) : Bool := isBlank c || isBreak c

/-- A digit or a letter of ASCII, or one of the two signs that names may hold. -/
def isNameChar (c : Char) : Bool := c.isAlphanum || c = '-' || c = '_'

def isHexDigit (c : Char) : Bool :=
  c.isDigit || ('a' ≤ c && c ≤ 'f') || ('A' ≤ c && c ≤ 'F')

/-- The character of a line end as it counts in a text: the two separators stand for themselves. -/
def lineEnd (c : Char) : Char := if c = '\x85' then '\n' else c

/-- Whether a word ends before what comes next: the end of the document or a gap. -/
def endsWord : Option Char → Bool
  | none => true
  | some c => isGap c

/-- Whether a line, or the blanks in it, end before what comes next: like `endsWord`, without the
    tab. -/
def endsField : Option Char → Bool
  | none => true
  | some c => c = ' ' || isBreak c

/-- Whether a line ends before what comes next. -/
def endsLine : Option Char → Bool
  | none => true
  | some c => isBreak c

/-! ## Cursors -/

/-- A place in a document: the characters to come and the failure behind them if there is one, the
    number of characters before, and line and column from zero. -/
structure Cursor where
  rest : List Char
  fault : Option Failure
  index : Nat
  line : Nat
  column : Nat

namespace Cursor

def start (s : Source) : Cursor := ⟨s.text, s.fault, 0, 0, 0⟩

/-- The character `n` places further on.  To look behind the last one that can be read fails. -/
def ahead (c : Cursor) (n : Nat) : Except Failure (Option Char) :=
  match c.rest[n]?, c.fault with
  | some d, _ => .ok (some d)
  | none, some f => .error f
  | none, none => .ok none

def peek (c : Cursor) : Except Failure (Option Char) := c.ahead 0

def second (c : Cursor) : Except Failure (Option Char) := c.ahead 1

/-- Whether the next character is `d`. -/
def sees (c : Cursor) (d : Char) : Except Failure Bool := return (← c.peek) = some d

/-- The place behind the next character; a byte order mark takes no column. -/
def next (c : Cursor) : Cursor :=
  match c.rest with
  | [] => c
  | d :: rest =>
    if isBreak d then ⟨rest, c.fault, c.index + 1, c.line + 1, 0⟩
    else if d = '\ufeff' then ⟨rest, c.fault, c.index + 1, c.line, c.column⟩
    else ⟨rest, c.fault, c.index + 1, c.line, c.column + 1⟩

/-- The place behind the next `n` characters. -/
def skip : Nat → Cursor → Cursor
  | 0, c => c
  | n + 1, c => skip n c.next

/-- Goes on behind the next `n` characters.  The one that follows them has to be readable. -/
def forward (n : Nat) (c : Cursor) : Except Failure Cursor := do
  let d := skip n c
  let _ ← d.peek
  return d

/-- The characters of a class that come next, and the place behind them. -/
def span (p : Char → Bool) (c : Cursor) : Except Failure (List Char × Cursor) := do
  let run := c.rest.takeWhile p
  return (run, ← c.forward run.length)

/-- The place behind the characters of a class. -/
def skipWhile (p : Char → Bool) (c : Cursor) : Except Failure Cursor := return (← c.span p).2

/-- The place behind the spaces that come next. -/
def skipSpaces (c : Cursor) : Except Failure Cursor := c.skipWhile (· = ' ')

/-- The place behind a comment, if one comes next. -/
def skipComment (c : Cursor) : Except Failure Cursor := do
  if ← c.sees '#' then c.skipWhile (!isBreak ·) else return c

/-- The place behind spaces up to column `limit`. -/
def skipIndent (limit : Nat) (c : Cursor) : Except Failure Cursor :=
  let spaces := c.rest.takeWhile (· = ' ')
  c.forward (min spaces.length (limit - c.column))

/-- Whether three given characters come next, and a gap or the end behind them. -/
def atTriple (d : Char) (c : Cursor) : Except Failure Bool := do
  let _ ← c.ahead 2
  if c.rest.take 3 = [d, d, d] then return endsWord (← c.ahead 3) else return false

/-- Whether a marker between documents comes next, provided that a line begins here. -/
def atMarker (c : Cursor) : Except Failure Bool := do
  if ← c.atTriple '-' then return true else c.atTriple '.'

/-- The place behind what is left of a line: spaces, a comment, and the line end.  Nothing else may
    be left. -/
def finishLine (c : Cursor) : Except Failure Cursor := do
  let c ← (← c.skipSpaces).skipComment
  if endsLine (← c.peek) then c.forward 1 else throw .malformedYaml

end Cursor

end MetricDocs.Yaml
