/-
  Scalars in quotes.

  Between single quotes a quote is written twice and nothing else is special; between double quotes
  a backslash begins an escape.  In both, blanks around a line end are dropped and line ends are
  folded as in plain scalars.

  * `escape` reads what follows a backslash;
  * `quotedGap` is a run of blanks and line ends;
  * `quotedScalar` reads to the closing quote.
-/
import MetricDocs.Failure
import MetricDocs.Text.Surrogates
import MetricDocs.Yaml.Token.Name
import MetricDocs.Yaml.Token.Plain

namespace MetricDocs.Yaml

/-! ## Gaps -/

/-- Behind a line end: the line ends of empty lines, and the place of what comes then.  A marker
    between documents is refused. -/
def quotedLines : Nat → Cursor → List Char → Except Failure (List Char × Cursor)
  | 0, c, seen => .ok (seen.reverse, c)
  | fuel + 1, c, seen => do
    if ← c.atMarker then throw .malformedYaml
    let c ← c.skipWhile isBlank
    match ← c.peek with
    | none => return (seen.reverse, c)
    | some d =>
      if isBreak d then quotedLines fuel (← c.forward 1) (lineEnd d :: seen)
      else return (seen.reverse, c)

/-- Blanks and line ends: as they count in the text, and the place behind them. -/
def quotedGap (c : Cursor) : Except Failure (List Char × Cursor) := do
  let (blanks, c) ← c.span isBlank
  match ← c.peek with
  | none => throw .malformedYaml
  | some d =>
    if isBreak d then
      let (others, c) ← quotedLines c.rest.length (← c.forward 1) []
      return (fold (lineEnd d) others, c)
    else return (blanks, c)

/-! ## Escapes -/

/-- The character of an escape of one letter. -/
def letterEscape? : Char → Option Char
  | '0' => some '\x00'
  | 'a' => some '\x07'
  | 'b' => some '\x08'
  | 't' => some '\t'
  | '\t' => some '\t'
  | 'n' => some '\n'
  | 'v' => some '\x0b'
  | 'f' => some '\x0c'
  | 'r' => some '\r'
  | 'e' => some '\x1b'
  | ' ' => some ' '
  | '"' => some '"'
  | '\\' => some '\\'
  | '/' => some '/'
  | 'N' => some '\x85'
  | '_' => some '\xa0'
  | 'L' => some '\u2028'
  | 'P' => some '\u2029'
  | _ => none

/-- The number of digits behind the letter of a numeric escape. -/
def escapeWidth? : Char → Option Nat
  | 'x' => some 2
  | 'u' => some 4
  | 'U' => some 8
  | _ => none

/-- The number that `width` digits in base sixteen write, `place` characters further on and behind the
    digits of `seen`. -/
def hexNumber : Nat → Nat → Nat → Cursor → Except Failure Nat
  | 0, _, seen, _ => .ok seen
  | width + 1, place, seen, c => do
    let d ← hexDigit (← c.ahead place)
    hexNumber width (place + 1) (16 * seen + d) c

/-- What an escape stands for by its code points, and the place behind it; the cursor is behind the
    backslash.  An escaped line end stands for the empty lines behind it. -/
def escape (c : Cursor) : Except Failure (List Nat × Cursor) := do
  match ← c.peek with
  | none => throw .malformedYaml
  | some d =>
    match letterEscape? d, escapeWidth? d with
    | some e, _ => return ([e.toNat], ← c.forward 1)
    | none, some width =>
      let c ← c.forward 1
      let n ← hexNumber width 0 0 c
      if n < 0x110000 then return ([n], ← c.forward width) else throw (.noCharacter n)
    | none, none =>
      if isBreak d then
        let (lines, c) ← quotedLines c.rest.length (← c.forward 1) []
        return (lines.map Char.toNat, c)
      else throw .malformedYaml

/-! ## Scalars -/

/-- Reads on to the closing quote, behind the code points `seen` (the last one first). -/
def quotedFrom (quote : Char) : Nat → Cursor → List Nat → Except Failure (Text.Escaped × Cursor)
  | 0, _, _ => .error .malformedYaml
  | fuel + 1, c, seen => do
    match ← c.peek with
    | none => throw .malformedYaml
    | some d =>
      if isGap d then
        let (text, c) ← quotedGap c
        quotedFrom quote fuel c (text.reverse.map Char.toNat ++ seen)
      else if d = quote then
        if quote = '\'' && (← c.second) = some '\'' then
          quotedFrom quote fuel (← c.forward 2) (d.toNat :: seen)
        else return (.ofPoints seen.reverse, ← c.forward 1)
      else if quote = '"' && d = '\\' then
        let (text, c) ← escape (← c.forward 1)
        quotedFrom quote fuel c (text.reverse ++ seen)
      else quotedFrom quote fuel (← c.forward 1) (d.toNat :: seen)

/-- The scalar in quotes at a place, and the place behind it. -/
def quotedScalar (quote : Char) (c : Cursor) : Except Failure (Text.Escaped × Cursor) := do
  quotedFrom quote (c.rest.length + 1) (← c.forward 1) []

end MetricDocs.Yaml
