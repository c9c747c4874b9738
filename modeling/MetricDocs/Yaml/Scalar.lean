/-
  The values of scalars.

  * `wholeOf` reads integers in base two, eight, ten, sixteen, and in groups of base sixty;
  * `doubleOf` reads doubles, in groups of base sixty too; underscores count in neither;
  * `scalarValue` is the value of a text under a tag.
-/
import MetricDocs.Decimal.Reading
import MetricDocs.Text.Base64
import MetricDocs.Text.Lower
import MetricDocs.Yaml.Tag

namespace MetricDocs.Yaml

/-! ## Integers -/

/-- The value of a digit in a base up to sixteen. -/
def digitIn? (base : Nat) (c : Char) : Option Nat :=
  let n :=
    if c.isDigit then some (c.toNat - '0'.toNat)
    else if 'a' ≤ c.toLower ∧ c.toLower ≤ 'f' then some (c.toLower.toNat - 'a'.toNat + 10)
    else none
  n.filter (· < base)

/-- The number that digits write in a base; there is at least one. -/
def digitsIn? (base : Nat) (cs : List Char) : Option Nat :=
  match cs.mapM (digitIn? base) with
  | some [] | none => none
  | some ds => some (ds.foldl (fun n d => base * n + d) 0)

/-- The text behind the mark of a base, if that stands in front. -/
def behindMark (base : Nat) : List Char → List Char
  | '0' :: c :: cs =>
    if (base = 2 ∧ c.toLower = 'b') ∨ (base = 8 ∧ c.toLower = 'o') ∨ (base = 16 ∧ c.toLower = 'x')
    then cs else '0' :: c :: cs
  | cs => cs

/-- An integer in a base, with blanks around it, a sign and the mark of the base allowed. -/
def wholeIn (base : Nat) (cs : List Char) : Except Failure Int :=
  let body := (Text.trimWith Text.isBlank cs).map Text.asciiDigit
  match digitsIn? base (behindMark base (behindSign body)) with
  | some n => .ok (if body.head? = some '-' then -n else n)
  | none => .error (.malformedWhole base (Text.quoted (String.ofList cs)))

def wholeInTen (cs : List Char) : Except Failure Int :=
  let s := String.ofList cs
  (Decimal.readWhole s).mapError (Failure.ofWhole (Text.quoted s))

/-- The value of digits in base sixty, most significant first. -/
def inSixties (ds : List Int) : Int := ds.foldl (fun n d => 60 * n + d) 0

/-- An integer without sign and underscores.  The digits behind a zero are in base eight. -/
def magnitudeOf (cs : List Char) : Except Failure Int :=
  match cs with
  | [] => .error .emptyText
  | ['0'] => .ok 0
  | '0' :: 'b' :: ds => wholeIn 2 ds
  | '0' :: 'x' :: ds => wholeIn 16 ds
  | '0' :: _ => wholeIn 8 cs
  | _ =>
    if ':' ∈ cs then ((cs.splitOn ':').mapM wholeInTen).map inSixties else wholeInTen cs

def withoutLows (s : String) : List Char := s.toList.filter (· ≠ '_')

/-- An integer. -/
def wholeOf (s : String) : Except Failure Int :=
  match withoutLows s with
  | [] => .error .emptyText
  | '-' :: cs => (magnitudeOf cs).map (-·)
  | '+' :: cs => magnitudeOf cs
  | cs => magnitudeOf cs

/-! ## Doubles -/

/-- A numeral with blanks around it and digits of any script. -/
def numeral (cs : List Char) : Except Failure Float :=
  match Decimal.readFloat? ((Text.trimWith Text.isBlank cs).map Text.asciiDigit) with
  | some x => .ok x
  | none => .error (.malformedFloat (Text.quoted (String.ofList cs)))

/-- The sum of digits in base sixty, least significant first, each times a power of sixty. -/
def addSixties : List Float → Nat → Float → Except Failure Float
  | [], _, sum => .ok sum
  | d :: ds, power, sum =>
    match Decimal.nearest? power with
    | some p => addSixties ds (power * 60) (sum + d * p)
    | none => .error .beyondFloat

/-- A double without sign and underscores, in small letters. -/
def doubleMagnitude (cs : List Char) : Except Failure Float :=
  if cs = ".inf".toList then .ok (1.0 / 0.0)
  else if cs = ".nan".toList then .ok (0.0 / 0.0)
  else if ':' ∈ cs then do
    let ds ← (cs.splitOn ':').mapM numeral
    addSixties ds.reverse 1 0.0
  else numeral cs

/-- A text without underscores, in small letters. -/
def numeralLetters (s : String) : List Char := (Text.lower (String.ofList (withoutLows s))).toList

/-- Whether a text is the word for what is no number, with or without a sign. -/
def namesNan : Text.Escaped → Bool
  | .string s => behindSign (numeralLetters s) = ".nan".toList
  | .surrogates _ => false

/-- A double. -/
def doubleOf (s : String) : Except Failure Float :=
  match numeralLetters s with
  | [] => .error .emptyText
  | '-' :: cs => (doubleMagnitude cs).map (-·)
  | '+' :: cs => doubleMagnitude cs
  | cs => doubleMagnitude cs

/-! ## Other scalars -/

/-- A truth value, in any mixture of small letters and capitals. -/
def truthOf (s : String) : Except Failure Bool :=
  let word := Text.lower s
  match boolWords.find? fun e => e.1 = word with
  | some e => .ok e.2
  | none => .error (.missing (Text.quoted word))

def bytesOf (s : String) : Except Failure (List UInt8) :=
  if s.toList.any fun c => 128 ≤ c.toNat then .error .malformedYaml
  else match Text.Base64.decode? s.toList with
    | some bs => .ok bs
    | none => .error .malformedYaml

def stampOf (s : String) : Except Failure Value :=
  match Stamp.read? (formOf s) with
  | some stamp => stamp.value
  | none => .error (.noAttribute "NoneType" "groupdict")

/-- What a number is asked for in code points: they without underscores and without a sign. -/
def numeralPoints (ps : List Nat) : List Nat :=
  match ps.filter (· ≠ '_'.toNat) with
  | n :: ps => if n = '+'.toNat ∨ n = '-'.toNat then ps else n :: ps
  | [] => []

/-- The value of a text with surrogates under a tag of scalars.  It is no number and no date. -/
def surrogatesValue (tag : Tag) (ps : List Nat) : Except Failure Value :=
  match tag with
  | .null => .ok .null
  | .bool => .error (.missing (Text.quotedPoints (Text.lowerPoints ps)))
  | .int => .error (.malformedWhole 10 (Text.quotedPoints (numeralPoints ps)))
  | .float => .error (.malformedFloat (Text.quotedPoints (numeralPoints (Text.lowerPoints ps))))
  | .text => .ok (.surrogates ps)
  | .timestamp => .error (.noAttribute "NoneType" "groupdict")
  | _ => .error .malformedYaml

/-- The value of a text under a tag of scalars. -/
def scalarValue (tag : Tag) (s : String) : Except Failure Value :=
  match tag with
  | .null => .ok .null
  | .bool => (truthOf s).map .bool
  | .int => (wholeOf s).map .int
  | .float => (doubleOf s).map .float
  | .text => .ok (.text s)
  | .binary => (bytesOf s).map .bytes
  | .timestamp => stampOf s
  | _ => .error .malformedYaml

/-- The value of a text that may come out of escapes. -/
def escapedValue (tag : Tag) : Text.Escaped → Except Failure Value
  | .string s => scalarValue tag s
  | .surrogates ps => surrogatesValue tag ps

example : (wholeOf "-0x1_F").toOption = some (-31) ∧ (wholeOf "190:20:30").toOption = some 685230 ∧
    (wholeOf "017").toOption = some 15 := by decide +kernel

end MetricDocs.Yaml
