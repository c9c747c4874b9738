/-
  Scalars in indented lines.

  Behind the indicator `|` lines keep their ends; behind `>` a line end between two lines is folded
  into a space, unless one of them begins with a blank.  Two more indicators may follow: how far the
  lines are indented, and which of the last line ends are kept.

  * `BlockHead` is what the first line says, `blockHead` reads it;
  * `firstIndent` finds the indentation where it is not said;
  * `blockScalar` reads the lines.
-/
import MetricDocs.Failure
import MetricDocs.Yaml.Token.Plain

namespace MetricDocs.Yaml

/-- Which of the line ends behind the text are kept. -/
inductive Chomp where
  | strip
  | clip
  | keep
  deriving DecidableEq, Repr

/-- What the first line of a block scalar says: which line ends are kept, and how far the lines are
    indented. -/
structure BlockHead where
  chomp : Chomp
  indent : Option Nat

def chompOf? : Char → Option Chomp
  | '+' => some .keep
  | '-' => some .strip
  | _ => none

def indentOf? (c : Char) : Option Nat :=
  if c.isDigit then some (c.toNat - '0'.toNat) else none

/-- The number that an indicator gives, which is not zero, and the place behind it. -/
def indentIndicator (d : Option Char) (c : Cursor) : Except Failure (Option Nat × Cursor) := do
  match d.bind indentOf? with
  | some 0 => throw .malformedYaml
  | some n => return (some n, ← c.forward 1)
  | none => return (none, c)

/-- The indicators that come next, in either order, and the place behind them. -/
def indicators (c : Cursor) : Except Failure (BlockHead × Cursor) := do
  let d ← c.peek
  match d.bind chompOf? with
  | some chomp =>
    let c ← c.forward 1
    let (indent, c) ← indentIndicator (← c.peek) c
    return (⟨chomp, indent⟩, c)
  | none =>
    let (indent, c) ← indentIndicator d c
    match indent, (← c.peek).bind chompOf? with
    | some _, some chomp => return (⟨chomp, indent⟩, ← c.forward 1)
    | _, _ => return (⟨.clip, indent⟩, c)

/-- The first line of a block scalar behind its indicator, and the place of the second. -/
def blockHead (c : Cursor) : Except Failure (BlockHead × Cursor) := do
  let (head, c) ← indicators c
  if !endsField (← c.peek) then throw .malformedYaml
  return (head, ← c.finishLine)

/-- The line ends of empty lines, the widest indentation among them and the line behind them, and
    the place where that begins. -/
def firstIndent : Nat → Cursor → List Char → Nat → Except Failure (List Char × Nat × Cursor)
  | 0, c, seen, widest => .ok (seen.reverse, widest, c)
  | fuel + 1, c, seen, widest => do
    match ← c.peek with
    | none => return (seen.reverse, widest, c)
    | some d =>
      let e ← if d = ' ' || isBreak d then c.forward 1 else pure c
      if d = ' ' then firstIndent fuel e seen (max widest e.column)
      else if isBreak d then firstIndent fuel e (lineEnd d :: seen) widest
      else return (seen.reverse, widest, c)

/-- The line ends of empty lines, and the place of what comes behind them and the indentation. -/
def blockLines (indent : Nat) : Nat → Cursor → List Char → Except Failure (List Char × Cursor)
  | 0, c, seen => .ok (seen.reverse, c)
  | fuel + 1, c, seen => do
    let c ← c.skipIndent indent
    match ← c.peek with
    | none => return (seen.reverse, c)
    | some d =>
      if isBreak d then blockLines indent fuel (← c.forward 1) (lineEnd d :: seen)
      else return (seen.reverse, c)

/-- Whether a line of the scalar begins here: not at the end, and at the right column. -/
def inBlock (indent : Nat) (c : Cursor) : Except Failure Bool :=
  return c.column = indent && (← c.peek).isSome

/-- What stands between a line that ends in `ending` and the next one, the line ends of empty lines
    apart; `flush` says that neither of the two begins with a blank. -/
def between (folded flush : Bool) (ending : List Char) (empty : List Char) : List Char :=
  if folded && ending = ['\n'] && flush then (if empty.isEmpty then [' '] else []) else ending

/-- The inside of a block scalar: the text to its last line, the end of that line, and the line ends
    behind it. -/
structure BlockText where
  text : List Char
  ending : List Char
  empty : List Char
  cursor : Cursor

/-- Reads lines on, behind the text `seen` and the line ends `empty`.  The first number bounds the
    lines. -/
def blockText (folded : Bool) (indent : Nat) :
    Nat → Cursor → List Char → List Char → Except Failure BlockText
  | 0, c, seen, empty => .ok ⟨seen, [], empty, c⟩
  | fuel + 1, c, seen, empty => do
    let flush := !((← c.peek).any isBlank)
    let (line, c) ← c.span (!isBreak ·)
    let ending := (← c.peek).toList.map lineEnd
    let (others, c) ← blockLines indent (c.rest.length + 1) (← c.forward 1) []
    let seen := seen ++ empty ++ line
    if ← inBlock indent c then
      let join := between folded (flush && !((← c.peek).any isBlank)) ending others
      blockText folded indent fuel c (seen ++ join) others
    else return ⟨seen, ending, others, c⟩

/-- The block scalar at a place inside a block with a given indentation, and the place behind it;
    `folded` tells the two kinds apart. -/
def blockScalar (folded : Bool) (outer : Int) (c : Cursor) : Except Failure (List Char × Cursor) := do
  let (head, c) ← blockHead (← c.forward 1)
  let least := (max (outer + 1) 1).toNat
  let fuel := c.rest.length + 1
  let (empty, indent, c) ← match head.indent with
    | some n => do
      let (empty, c) ← blockLines (least + n - 1) fuel c []
      pure (empty, least + n - 1, c)
    | none => do
      let (empty, widest, c) ← firstIndent fuel c [] 0
      pure (empty, max least widest, c)
  let b ← if ← inBlock indent c then blockText folded indent fuel c [] empty else pure ⟨[], [], empty, c⟩
  return match head.chomp with
    | .strip => (b.text, b.cursor)
    | .clip => (b.text ++ b.ending, b.cursor)
    | .keep => (b.text ++ b.ending ++ b.empty, b.cursor)

end MetricDocs.Yaml
