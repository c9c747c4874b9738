/-
  Whole numbers in decimal.

  * `natDigits` and `intDigits` write a number without padding, `padded` with zeros in front;
  * `ofDigits` reads a run of ASCII digits;
  * `maxDigits` is the longest run that any reader or printer of whole numbers accepts;
  * `ofDigits_natDigits`: reading back what was written gives the number.
-/
namespace MetricDocs.Decimal

/-- The longest run of digits that is converted between text and number. -/
def maxDigits : Nat := 4300

/-- The digits of a natural number, most significant first. -/
def natDigits (n : Nat) : List Char := Nat.toDigits 10 n

/-- The digits of an integer, with `-` in front of a negative one. -/
def intDigits : Int → List Char
  | .ofNat n => natDigits n
  | .negSucc n => '-' :: natDigits (n + 1)

def intText (n : Int) : String := String.ofList (intDigits n)

/-- The number that a run of ASCII digits denotes. -/
def ofDigits (cs : List Char) : Nat := Nat.ofDigitChars 10 cs 0

/-- The digits of `n` with zeros in front up to `width` characters. -/
def padded (width n : Nat) : List Char :=
  let ds := natDigits n
  List.replicate (width - ds.length) '0' ++ ds

/-- Whether an integer has more digits than are converted to text. -/
def tooLong (n : Int) : Bool := n.natAbs ≥ Nat.pow 10 maxDigits

theorem ofDigits_natDigits (n : Nat) : ofDigits (natDigits n) = n :=
  Nat.ofDigitChars_toDigits (by decide) (by decide)

theorem isDigit_of_mem_natDigits {n : Nat} {c : Char} (h : c ∈ natDigits n) : c.isDigit = true :=
  Nat.isDigit_of_mem_toDigits (by decide) (by decide) h

theorem natDigits_ne_nil (n : Nat) : natDigits n ≠ [] := Nat.toDigits_ne_nil

end MetricDocs.Decimal
