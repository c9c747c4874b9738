/-
  Whole numbers out of text and out of doubles.

  * `readWhole` reads blanks, an optional sign and digits of any script, with single underscores
    allowed between digits; a run longer than `maxDigits` is refused before what follows the run
    is looked at;
  * `truncate?` drops the fraction of a double, and `nearest?` is the double of an integer.
-/
import MetricDocs.Decimal.Nearest
import MetricDocs.Decimal.Shortest
import MetricDocs.Text.Blank
import MetricDocs.Text.DecimalDigit

namespace MetricDocs.Decimal

/-- Why a text is not a whole number. -/
inductive WholeError where
  | malformed
  | tooManyDigits (count : Nat)
  deriving DecidableEq, Repr

/-- Whether the underscores of a run of digits and underscores stand singly between digits;
    `joined` says whether a digit comes right before the run. -/
def underscoresInside (joined : Bool) : List Char → Bool
  | [] => joined
  | '_' :: cs => joined && underscoresInside false cs
  | _ :: cs => underscoresInside true cs

/-- A number without sign: ASCII digits and underscores, and nothing else. -/
def readUnsigned (cs : List Char) : Except WholeError Nat :=
  let run := cs.takeWhile fun c => c.isDigit || c = '_'
  let digits := run.filter Char.isDigit
  if !underscoresInside false run then .error .malformed
  else if digits.length > maxDigits then .error (.tooManyDigits digits.length)
  else if run.length < cs.length then .error .malformed
  else .ok (ofDigits digits)

def readSigned : List Char → Except WholeError Int
  | '-' :: cs => (readUnsigned cs).map fun n => -(n : Int)
  | '+' :: cs => (readUnsigned cs).map Int.ofNat
  | cs => (readUnsigned cs).map Int.ofNat

/-- A whole number in text, with blanks around it and digits of any script. -/
def readWhole (s : String) : Except WholeError Int :=
  readSigned ((Text.trimWith Text.isBlank s.toList).map Text.asciiDigit)

/-- A whole number in bytes, each taken as one character: only ASCII blanks and digits count. -/
def readWholeBytes (bs : List UInt8) : Except WholeError Int :=
  readSigned (Text.trimWith Text.isAsciiBlank (bs.map fun b => Char.ofNat b.toNat))

/-- The integer part of a finite double, toward zero. -/
def truncate? (x : Float) : Option Int :=
  let signed (n : Nat) : Int := if isNegative x then -n else n
  match magnitude x with
  | .nan | .infinite => none
  | .zero => some 0
  | .finite b => some (signed (b.m * Nat.pow 2 b.q.toNat / Nat.pow 2 (-b.q).toNat))

/-- The double nearest to an integer, a tie going to the even significand; nothing if it is beyond
    the largest double. -/
def nearest? (n : Int) : Option Float :=
  let bits := if n = 0 then 0 else nearestBits n.natAbs 1
  if h : bits < infinityBits then some (ofBits (n < 0) bits (Nat.le_of_lt h)) else none

example : (readWhole " +1_0\n").toOption = some 10 ∧ (readWhole "٣").toOption = some 3 := by
  decide +kernel
example : (readWhole "1__0").toOption = none ∧ (readWhole "_1").toOption = none ∧
    (readWhole "").toOption = none := by decide +kernel

end MetricDocs.Decimal
