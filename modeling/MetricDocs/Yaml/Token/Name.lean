/-
  Names inside a document: anchors, tags and directives.

  * `anchorName` reads the name of an anchor or of a reference to one;
  * `tagName` reads a tag, `tagUri` the part of it that may hold any text by escapes;
  * `directive` reads a directive to the end of its line.
-/
import MetricDocs.Text.Utf8
import MetricDocs.Decimal.Digits
import MetricDocs.Yaml.Cursor
import MetricDocs.Yaml.Token

namespace MetricDocs.Yaml

/-! ## Anchors -/

/-- Whether a name ends before what comes next. -/
def endsName : Option Char → Bool
  | none => true
  | some c => isGap c || "?:,]\x7d%@`".toList.contains c

/-- The name behind the sign of an anchor or a reference, and the place behind it. -/
def anchorName (c : Cursor) : Except Failure (String × Cursor) := do
  let (name, c) ← (← c.forward 1).span isNameChar
  if name.isEmpty || !endsName (← c.peek) then throw .malformedYaml
  return (String.ofList name, c)

/-! ## Tags -/

/-- A character that a tag may hold as it is; the percent sign begins an escape. -/
def isUriChar (c : Char) : Bool :=
  isNameChar c || ";/?:@&=+$,.!~*'()[]".toList.contains c

/-- The value of a digit in base sixteen. -/
def hexValue (c : Char) : Nat :=
  if c.isDigit then c.toNat - '0'.toNat else c.toLower.toNat - 'a'.toNat + 10

/-- The value of a digit in base sixteen, which has to be one. -/
def hexDigit (c : Option Char) : Except Failure Nat :=
  match c with
  | some d => if isHexDigit d then .ok (hexValue d) else .error .malformedYaml
  | none => .error .malformedYaml

/-- The bytes of escapes in a row, and the place behind them: each is a percent sign and two digits
    in base sixteen.  The first number bounds them. -/
def uriBytes : Nat → Cursor → List UInt8 → Except Failure (List UInt8 × Cursor)
  | 0, c, seen => .ok (seen.reverse, c)
  | fuel + 1, c, seen => do
    if ← c.sees '%' then
      let c ← c.forward 1
      let x ← hexDigit (← c.ahead 0)
      let y ← hexDigit (← c.ahead 1)
      uriBytes fuel (← c.forward 2) (UInt8.ofNat (16 * x + y) :: seen)
    else return (seen.reverse, c)

/-- The text of a tag behind its handle, read on behind `seen`.  The first number bounds its runs. -/
def uriText : Nat → Cursor → List Char → Except Failure (List Char × Cursor)
  | 0, c, seen => .ok (seen, c)
  | fuel + 1, c, seen => do
    let (run, c) ← c.span isUriChar
    if ← c.sees '%' then
      let (bytes, c) ← uriBytes c.rest.length c []
      match Text.Utf8.decode bytes with
      | .ok text => uriText fuel c (seen ++ run ++ text)
      | .error _ => throw .malformedYaml
    else return (seen ++ run, c)

/-- The text of a tag, which is not empty, and the place behind it. -/
def tagUri (c : Cursor) : Except Failure (String × Cursor) := do
  if (← c.peek).any fun d => d = '%' || isUriChar d then
    let (text, c) ← uriText (c.rest.length + 1) c []
    return (String.ofList text, c)
  else throw .malformedYaml

/-- A handle: a name between two exclamation marks, or a single one where a space follows it. -/
def tagHandle (c : Cursor) : Except Failure (String × Cursor) := do
  if !(← c.sees '!') then throw .malformedYaml
  if (← c.second) = some ' ' then return ("!", ← c.forward 1)
  let (name, c) ← (← c.forward 1).span isNameChar
  if ← c.sees '!' then return (String.ofList ('!' :: name ++ ['!']), ← c.forward 1)
  else throw .malformedYaml

/-- Whether a second exclamation mark follows in the word that begins with one. -/
def hasHandle (c : Cursor) : Except Failure Bool := do
  let word := c.rest.tail.takeWhile fun d => d ≠ '!' && !endsField (some d)
  return (← c.ahead (word.length + 1)) = some '!'

def tagName (c : Cursor) : Except Failure (TagName × Cursor) := do
  let second ← c.second
  let (name, c) ←
    if second = some '<' then do
      let (suffix, c) ← tagUri (← c.forward 2)
      if ← c.sees '>' then pure (TagName.mk none suffix, ← c.forward 1) else throw .malformedYaml
    else if endsWord second then pure (TagName.mk none "!", ← c.forward 1)
    else do
      let (handle, c) ← if ← hasHandle c then tagHandle c else pure ("!", ← c.forward 1)
      let (suffix, c) ← tagUri c
      pure (TagName.mk (some handle) suffix, c)
  if endsField (← c.peek) then return (name, c) else throw .malformedYaml

/-! ## Directives -/

/-- A number without sign, and the place behind it; it has at most `Decimal.maxDigits` digits. -/
def number (c : Cursor) : Except Failure (Nat × Cursor) := do
  let (ds, c) ← c.span Char.isDigit
  if ds.isEmpty then throw .malformedYaml
  if Decimal.maxDigits < ds.length then throw (.tooManyDigits (some ds.length))
  return (Decimal.ofDigits ds, c)

/-- The version in a directive: two numbers with a point between them. -/
def version (c : Cursor) : Except Failure (Token × Cursor) := do
  let (major, c) ← number (← c.skipSpaces)
  if !(← c.sees '.') then throw .malformedYaml
  let (_, c) ← number (← c.forward 1)
  if endsField (← c.peek) then return (.version major, c) else throw .malformedYaml

/-- The handle and its meaning in a directive. -/
def handleMeaning (c : Cursor) : Except Failure (Token × Cursor) := do
  let (handle, c) ← tagHandle (← c.skipSpaces)
  if !(← c.sees ' ') then throw .malformedYaml
  let (start, c) ← tagUri (← c.skipSpaces)
  if endsField (← c.peek) then return (.tagHandle handle start, c) else throw .malformedYaml

/-- A directive, and the place of the line behind it; the cursor is at the percent sign. -/
def directive (c : Cursor) : Except Failure (Token × Cursor) := do
  let (name, c) ← (← c.forward 1).span isNameChar
  if name.isEmpty || !endsField (← c.peek) then throw .malformedYaml
  let (token, c) ←
    if name = "YAML".toList then version c
    else if name = "TAG".toList then handleMeaning c
    else pure (.otherDirective, ← c.skipWhile (!isBreak ·))
  return (token, ← c.finishLine)

end MetricDocs.Yaml
