/-
  Scalars without quotes.

  A plain scalar is made of words.  Between two words of a line the spaces stand as they are; a
  line end between them is folded into a space, and empty lines into line ends.

  * `plainWord` is the longest word in front of a text;
  * `plainGap` is what stands between two words;
  * `plainScalar` reads words and gaps as long as the scalar goes on.
-/
import MetricDocs.Yaml.Cursor

namespace MetricDocs.Yaml

/-- A character that ends a word, inside brackets, wherever it stands. -/
def isFlowEnd (c : Char) : Bool :=
  c = ',' || c = '?' || c = '[' || c = ']' || c = '{' || c = '}'

/-- Whether a colon is no part of a word, by what follows it. -/
def endsKey (flow : Bool) : Option Char → Bool
  | none => true
  | some c => isGap c || (flow && isFlowEnd c && c != '?')

/-- The word in front of a text: it ends at a gap, at a colon that ends a key, and inside brackets
    at what ends or separates their members. -/
def plainWord (flow : Bool) : List Char → List Char
  | [] => []
  | c :: cs =>
    if isGap c || (c = ':' && endsKey flow cs.head?) || (flow && isFlowEnd c) then []
    else c :: plainWord flow cs

/-- What stands between two words: its text as far as it counts, the place behind it, and whether a
    line ends in it.  At a marker between documents the text is missing. -/
structure Gap where
  text : List Char
  cursor : Cursor
  broken : Bool

/-- The place behind a word.  Behind a colon one more character has to be readable. -/
def behindWord (word : List Char) (c : Cursor) : Except Failure Cursor := do
  let c ← c.forward word.length
  if ← c.sees ':' then
    let _ ← c.second
  return c

/-- The line ends of empty lines, and the place behind them; a marker between documents gives
    nothing.  The first number bounds the characters looked at. -/
def emptyLines : Nat → Cursor → List Char → Except Failure (Option (List Char) × Cursor)
  | 0, c, seen => .ok (some seen.reverse, c)
  | fuel + 1, c, seen => do
    match ← c.peek with
    | none => return (some seen.reverse, c)
    | some d =>
      if d = ' ' then emptyLines fuel (← c.forward 1) seen
      else if isBreak d then
        let c ← c.forward 1
        if ← c.atMarker then return (none, c)
        emptyLines fuel c (lineEnd d :: seen)
      else return (some seen.reverse, c)

/-- Line ends in a row as a text: one alone becomes a space, and of several the first is left
    out. -/
def fold (first : Char) (others : List Char) : List Char :=
  if first ≠ '\n' then first :: others else if others.isEmpty then [' '] else others

def plainGap (c : Cursor) : Except Failure Gap := do
  let (spaces, c) ← c.span (· = ' ')
  match ← c.peek with
  | none => return ⟨spaces, c, false⟩
  | some d =>
    if isBreak d then
      let c ← c.forward 1
      if ← c.atMarker then return ⟨[], c, true⟩
      match ← emptyLines (c.rest.length + 1) c [] with
      | (none, c) => return ⟨[], c, true⟩
      | (some others, c) => return ⟨fold (lineEnd d) others, c, true⟩
    else return ⟨spaces, c, false⟩

/-- A scalar as read: its text, the place behind it, and whether a new line was begun after it. -/
structure PlainScalar where
  text : List Char
  cursor : Cursor
  broken : Bool

/-- Whether a scalar ends at a gap: where no word follows, before a comment, and outside of brackets
    where a line begins left of column `indent`. -/
def Gap.isLast (flow : Bool) (indent : Int) (gap : Gap) : Except Failure Bool := do
  if gap.text.isEmpty then return true
  return (← gap.cursor.sees '#') || (!flow && gap.cursor.column < indent)

/-- Reads words on, behind the text `seen` and the gap `gap`.  The first number bounds the words. -/
def plainWords (flow : Bool) (indent : Int) : Nat → List Char → Gap → Except Failure PlainScalar
  | 0, seen, gap => .ok ⟨seen, gap.cursor, gap.broken⟩
  | fuel + 1, seen, gap => do
    let word := plainWord flow gap.cursor.rest
    let c ← behindWord word gap.cursor
    if word.isEmpty then return ⟨seen, gap.cursor, gap.broken⟩
    let seen := seen ++ gap.text ++ word
    let gap ← plainGap c
    if ← gap.isLast flow indent then return ⟨seen, gap.cursor, gap.broken⟩
    plainWords flow indent fuel seen gap

def plainScalar (flow : Bool) (indent : Int) (c : Cursor) : Except Failure PlainScalar :=
  plainWords flow indent (c.rest.length + 1) [] ⟨[], c, false⟩

end MetricDocs.Yaml
