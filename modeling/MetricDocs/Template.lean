/-
  Templates: text with places into which values are put.

  A place begins with `%` and ends with the letter of its form.  Between them there may be the name
  of a value in round brackets, flags, the width that the place takes at least, a point and a
  precision, and a letter that tells a size and means nothing.  A width or a precision may be `*`:
  then it is a value itself.  Two signs `%%` stand for one.

  * `Form` is how a value is written, `Place` a place, `Piece` a place or a character beside one;
  * `pieces?` takes a template apart;
  * `Written` is a value before it is padded, `Form.written?` writes a value, `Written.padded` pads it;
  * `Values` are the values at hand: one after another, or by name;
  * `fill?` puts values into a template.  All values that come one after another have to be used.
-/
import MetricDocs.Decimal.Significant
import MetricDocs.Decimal.Whole
import MetricDocs.Value.Shown

namespace MetricDocs.Template

/-! ## Places -/

/-- The three ways to write a double. -/
inductive DoubleForm where
  | scientific
  | positional
  | general
  deriving DecidableEq, Repr

/-- How a value is written. -/
inductive Form where
  /-- As it stands in a message. -/
  | shown
  /-- So that its kind can be told; `ascii` keeps other characters out. -/
  | quoted (ascii : Bool)
  /-- As a whole number in base ten. -/
  | whole
  /-- As a whole number in another base. -/
  | based (base : Nat) (upper : Bool)
  /-- As a double. -/
  | double (how : DoubleForm) (upper : Bool)
  /-- As a single character. -/
  | character
  deriving DecidableEq, Repr

def Form.ofLetter? : Char → Option Form
  | 's' => some .shown
  | 'r' => some (.quoted false)
  | 'a' => some (.quoted true)
  | 'd' | 'i' | 'u' => some .whole
  | 'o' => some (.based 8 false)
  | 'x' => some (.based 16 false)
  | 'X' => some (.based 16 true)
  | 'e' => some (.double .scientific false)
  | 'E' => some (.double .scientific true)
  | 'f' => some (.double .positional false)
  | 'F' => some (.double .positional true)
  | 'g' => some (.double .general false)
  | 'G' => some (.double .general true)
  | 'c' => some .character
  | _ => none

/-- What a place asks for besides its form: the left side, a sign or a blank in front of a positive
    number, the fuller form, and zeros in the place of blanks. -/
structure Flags where
  left : Bool
  plus : Bool
  blank : Bool
  full : Bool
  zero : Bool
  deriving DecidableEq, Repr

def Flags.none : Flags := ⟨false, false, false, false, false⟩

/-- A width or a precision: a number, or the next value. -/
inductive Measure where
  | given (n : Nat)
  | taken
  deriving DecidableEq, Repr

/-- A place of a template. -/
structure Place where
  name : Option String
  flags : Flags
  width : Option Measure
  precision : Option Measure
  form : Form
  deriving DecidableEq, Repr

/-- A part of a template. -/
inductive Piece where
  | letter (c : Char)
  | place (p : Place)
  deriving DecidableEq, Repr

/-! ## Taking a template apart -/

/-- The greatest number that a width or a precision may be. -/
def maxMeasure : Nat := 0x7fffffff

/-- A name up to the bracket that closes it, and the text behind; brackets in it come in pairs, of
    which `depth` are open. -/
def nameRun? : Nat → List Char → Option (List Char × List Char)
  | _, [] => none
  | depth, c :: cs =>
    if c = ')' then
      match depth with
      | 0 => some ([], cs)
      | depth + 1 => (nameRun? depth cs).map fun r => (c :: r.1, r.2)
    else (nameRun? (if c = '(' then depth + 1 else depth) cs).map fun r => (c :: r.1, r.2)

/-- The name of the value in front of a text, and the text behind. -/
def name? : List Char → Option (Option String × List Char)
  | '(' :: cs => (nameRun? 0 cs).map fun r => (some (String.ofList r.1), r.2)
  | cs => some (none, cs)

/-- The flags in front of a text, and the text behind. -/
def flagRun (f : Flags) : List Char → Flags × List Char
  | '-' :: cs => flagRun { f with left := true } cs
  | '+' :: cs => flagRun { f with plus := true } cs
  | ' ' :: cs => flagRun { f with blank := true } cs
  | '#' :: cs => flagRun { f with full := true } cs
  | '0' :: cs => flagRun { f with zero := true } cs
  | cs => (f, cs)

/-- The measure in front of a text, if there is one, and the text behind; the number may not be too
    great. -/
def measure? : List Char → Option (Option Measure × List Char)
  | '*' :: cs => some (some .taken, cs)
  | cs =>
    let ds := cs.takeWhile Char.isDigit
    let n := Decimal.ofDigits ds
    if ds.isEmpty then some (none, cs)
    else if n ≤ maxMeasure then some (some (.given n), cs.drop ds.length)
    else none

/-- The precision in front of a text, if there is one, and the text behind; a point alone means
    none at all. -/
def precision? : List Char → Option (Option Measure × List Char)
  | '.' :: cs => (measure? cs).map fun r => (some (r.1.getD (.given 0)), r.2)
  | cs => some (none, cs)

/-- The text behind a letter that tells a size. -/
def behindSize : List Char → List Char
  | 'h' :: cs | 'l' :: cs | 'L' :: cs => cs
  | cs => cs

/-- The place in front of a text, without its `%`, and the text behind. -/
def place? (cs : List Char) : Option (Place × List Char) := do
  let (name, cs) ← name? cs
  let (flags, cs) := flagRun .none cs
  let (width, cs) ← measure? cs
  let (precision, cs) ← precision? cs
  match behindSize cs with
  | [] => none
  | c :: cs => (Form.ofLetter? c).map fun form => (⟨name, flags, width, precision, form⟩, cs)

/-- The pieces of a template; `fuel` bounds their number. -/
def piecesUpTo? : Nat → List Char → Option (List Piece)
  | 0, _ => none
  | _ + 1, [] => some []
  | fuel + 1, '%' :: '%' :: cs => (piecesUpTo? fuel cs).map (.letter '%' :: ·)
  | fuel + 1, '%' :: cs => do
    let (p, cs) ← place? cs
    return .place p :: (← piecesUpTo? fuel cs)
  | fuel + 1, c :: cs => (piecesUpTo? fuel cs).map (.letter c :: ·)

def pieces? (template : String) : Option (List Piece) :=
  piecesUpTo? (template.length + 1) template.toList

/-! ## Writing a value -/

/-- A value as it is written before it is padded.  A number has a sign, a mark of its base in front
    of the digits, and may be filled with zeros. -/
structure Written where
  isNumber : Bool
  sign : List Char
  mark : List Char
  body : List Char
  deriving DecidableEq, Repr

def Written.text (cs : List Char) : Written := ⟨false, [], [], cs⟩

/-- A number with its sign; a positive one has a sign or a blank only if a flag asks for it. -/
def Written.number (f : Flags) (negative : Bool) (mark body : List Char) : Written :=
  let sign := if negative then ['-'] else if f.plus then ['+'] else if f.blank then [' '] else []
  ⟨true, sign, mark, body⟩

/-- Pads to a width: on the right if that is asked for, with zeros behind the sign and the mark of a
    number if those are, otherwise with blanks in front. -/
def Written.padded (f : Flags) (width : Nat) (w : Written) : List Char :=
  let front := w.sign ++ w.mark
  let missing := width - (front ++ w.body).length
  if f.left then front ++ w.body ++ List.replicate missing ' '
  else if f.zero && w.isNumber then front ++ List.replicate missing '0' ++ w.body
  else List.replicate missing ' ' ++ front ++ w.body

def integer? : Value → Option Int
  | .int n => some n
  | .bool b => some (if b then 1 else 0)
  | _ => none

/-- The whole number of a value, the fraction of a double dropped. -/
def truncated? : Value → Option Int
  | .float x => Decimal.truncate? x
  | v => integer? v

def double? : Value → Option Float
  | .float x => some x
  | v => (integer? v).bind Decimal.nearest?

/-- The character that a value is, or whose number it is. -/
def character? : Value → Option Char
  | .text s => match s.toList with
    | [c] => some c
    | _ => none
  | v => (integer? v).bind fun n =>
    if h : n.toNat.isValidChar then if 0 ≤ n then some (Char.ofNatAux n.toNat h) else none else none

/-- A character that is no ASCII behind a backslash, by its number in hex digits. -/
def asciiChar (c : Char) : List Char :=
  let n := c.toNat
  if n < 0x80 then [c]
  else if n < 0x100 then '\\' :: 'x' :: Text.hexDigits 2 n
  else if n < 0x10000 then '\\' :: 'u' :: Text.hexDigits 4 n
  else '\\' :: 'U' :: Text.hexDigits 8 n

/-- The digits of a natural number in a base, filled with zeros up to a precision. -/
def basedDigits (base : Nat) (precision : Option Nat) (n : Nat) : List Char :=
  let ds := Nat.toDigits base n
  List.replicate (precision.getD 0 - ds.length) '0' ++ ds

/-- What marks a base in front of a number. -/
def baseMark (base : Nat) : List Char := if base = 8 then ['0', 'o'] else ['0', 'x']

/-- Characters in capitals, if those are asked for. -/
def inCapitals (upper : Bool) (cs : List Char) : List Char :=
  if upper then cs.map Char.toUpper else cs

/-- A double without its sign; there are six places or digits unless a precision is given. -/
def doubleBody (f : Flags) (how : DoubleForm) (precision : Option Nat) (x : Float) : List Char :=
  let digits (b : Option Decimal.Binary) : List Char :=
    let count := precision.getD 6
    match how with
    | .scientific => Decimal.scientificDigits f.full count b
    | .positional =>
      let cs := (b.map (Decimal.fixedDigits count)).getD (Decimal.withPlaces count 0)
      if count = 0 && !f.full then cs.dropLast else cs
    | .general => Decimal.generalDigits f.full count b
  match Decimal.magnitude x with
  | .nan => "nan".toList
  | .infinite => "inf".toList
  | .zero => digits none
  | .finite b => digits (some b)

/-- Whether a double is written with a minus. -/
def isMinus (x : Float) : Bool := Decimal.isNegative x && Decimal.magnitude x ≠ .nan

def cut (precision : Option Nat) (cs : List Char) : List Char :=
  match precision with
  | some n => cs.take n
  | none => cs

/-- A value in a form, if it has one there. -/
def Form.written? (form : Form) (f : Flags) (precision : Option Nat) (v : Value) : Option Written :=
  match form with
  | .shown => some (.text (cut precision v.shown.toList))
  | .quoted ascii =>
    let cs := v.quoted.toList
    some (.text (cut precision (if ascii then cs.flatMap asciiChar else cs)))
  | .whole => (truncated? v).bind fun n =>
    if Decimal.tooLong n then none
    else some (.number f (n < 0) [] (basedDigits 10 precision n.natAbs))
  | .based base upper => (integer? v).map fun n =>
    .number f (n < 0) (inCapitals upper (if f.full then baseMark base else []))
      (inCapitals upper (basedDigits base precision n.natAbs))
  | .double how upper => (double? v).map fun x =>
    .number f (isMinus x) [] (inCapitals upper (doubleBody f how precision x))
  | .character => (character? v).map fun c => .text [c]

/-! ## Filling in -/

/-- The values at hand: one after another, or by name, where the next one is the last one named and
    has not been used yet. -/
inductive Values where
  | inOrder (vs : List Value)
  | named (fields : Fields) (next : Option Value)

/-- The values that arguments are: a single mapping with entries gives names, and is the first value
    itself. -/
def Values.ofList : List Value → Values
  | [.mapping (e :: fields)] => .named (e :: fields) (some (.mapping (e :: fields)))
  | vs => .inOrder vs

/-- Whether all values have been used that have to be. -/
def Values.isDone : Values → Bool
  | inOrder vs => vs.isEmpty
  | named _ _ => true

/-- Filling in, with the values still at hand. -/
abbrev Filling := StateT Values Option

def next : Filling Value := do
  match ← get with
  | .inOrder (v :: vs) => set (Values.inOrder vs); return v
  | .named fields (some v) => set (Values.named fields none); return v
  | _ => failure

/-- Makes the value with a name the next one. -/
def choose (name : Option String) : Filling Unit := do
  match name, ← get with
  | none, _ => return
  | some s, .named fields _ =>
    match Fields.get? fields (.text s) with
    | some v => set (Values.named fields (some v))
    | none => failure
  | some _, .inOrder _ => failure

/-- The number of a measure, if there is one. -/
def measured (m : Option Measure) : Filling (Option Int) := do
  match m with
  | none => return none
  | some (.given n) => return some n
  | some .taken =>
    match integer? (← next) with
    | some n => if n.natAbs ≤ maxMeasure then return some n else failure
    | none => failure

/-- Fills one place.  A width below zero asks for the left side, a precision below zero for none at
    all. -/
def Place.filled (p : Place) : Filling (List Char) := do
  choose p.name
  let width := (← measured p.width).getD 0
  let precision ← measured p.precision
  let v ← next
  match p.form.written? p.flags (precision.map Int.toNat) v with
  | some w => return w.padded { p.flags with left := p.flags.left || width < 0 } width.natAbs
  | none => failure

def filled : List Piece → Filling (List Char)
  | [] => return []
  | .letter c :: ps => return c :: (← filled ps)
  | .place p :: ps => do
    let cs ← p.filled
    return cs ++ (← filled ps)

/-- A template with values put in, if they fit. -/
def fill? (template : String) (args : List Value) : Option String := do
  let (cs, left) ← (filled (← pieces? template)).run (.ofList args)
  if left.isDone then return String.ofList cs else none

example : fill? "%5d|%-5d|%05d" [.int 42, .int 42, .int 42] = some "   42|42   |00042" := by
  decide +kernel
example : fill? "%#x %+d" [.int 255, .int 7] = some "0xff +7" ∧ fill? "%d" [.text "x"] = none := by
  decide +kernel

end MetricDocs.Template
