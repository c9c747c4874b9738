/-
  Numbers with a fixed count of significant digits.

  * `significant count b` is the decimal of `count` digits nearest to a positive number, a half
    going to the even neighbour;
  * `scientificDigits` writes it with one digit in front of the point and an exponent;
  * `generalDigits` writes it without an exponent where that is short enough, and without the zeros
    at its end.
-/
import MetricDocs.Decimal.Fixed
import MetricDocs.Decimal.Layout

namespace MetricDocs.Decimal

/-- The exponent of the first digit of the positive number `num / den`: `10^e` is not above the
    number, and `10^(e+1)` is. -/
def leadingExponent (num den : Nat) : Int :=
  let e : Int := (natDigits num).length - (natDigits den).length
  if den * Nat.pow 10 e.toNat ≤ num * Nat.pow 10 (-e).toNat then e else e - 1

/-- The nearest decimal with `count` digits, one at least; a number that rounds up to the next power
    of ten loses its last zero. -/
def significant (count : Nat) (b : Binary) : Scientific :=
  let num := b.m * Nat.pow 2 b.q.toNat
  let den := Nat.pow 2 (-b.q).toNat
  let unit := leadingExponent num den + 1 - count
  let d := roundHalfEven (num * Nat.pow 10 (-unit).toNat) (den * Nat.pow 10 unit.toNat)
  if d < Nat.pow 10 count then ⟨d, unit⟩ else ⟨d / 10, unit + 1⟩

/-- Digits without the zeros at their end, and without a point that is left there. -/
def withoutZeros (cs : List Char) : List Char :=
  let kept := (cs.reverse.dropWhile (· = '0')).reverse
  if kept.getLast? = some '.' then kept.dropLast else kept

/-- Digits of which the first stands in front of the point. -/
def pointed (ds : List Char) : List Char := ds.take 1 ++ '.' :: ds.drop 1

/-- The digits of nothing or of a positive number: `count` of them, and the exponent of the first. -/
def leadingDigits (count : Nat) : Option Binary → List Char × Int
  | none => (List.replicate count '0', 0)
  | some b =>
    let x := significant count b
    (natDigits x.digits, x.exponent + count - 1)

/-- A number with `places` digits behind the first, and an exponent; `keepPoint` keeps a point behind
    which there is nothing. -/
def scientificDigits (keepPoint : Bool) (places : Nat) (b : Option Binary) : List Char :=
  let (ds, e) := leadingDigits (places + 1) b
  (if places = 0 && !keepPoint then ds else pointed ds) ++ 'e' :: exponentText e

/-- A number of `count` significant digits, zero counting as one: with an exponent if it is below
    `0.0001` or has more digits in front of the point than that.  The zeros at its end are kept only
    if that is asked for. -/
def generalDigits (keepZeros : Bool) (count : Nat) (b : Option Binary) : List Char :=
  let count := max count 1
  let (ds, e) := leadingDigits count b
  let trimmed (cs : List Char) : List Char := if keepZeros then cs else withoutZeros cs
  if e < -4 ∨ (count : Int) ≤ e then trimmed (pointed ds) ++ 'e' :: exponentText e
  else if e < 0 then trimmed ("0.".toList ++ List.replicate (-e - 1).toNat '0' ++ ds)
  else trimmed (ds.take (e.toNat + 1) ++ '.' :: ds.drop (e.toNat + 1))

example : scientificDigits false 2 (some ⟨Nat.pow 2 52 + Nat.pow 2 51, -52⟩) = "1.50e+00".toList := by
  decide +kernel
example : generalDigits false 6 (some ⟨100000000, 0⟩) = "1e+08".toList ∧
    generalDigits false 6 (some ⟨999999, 0⟩) = "999999".toList ∧
    generalDigits true 3 none = "0.00".toList := by decide +kernel

end MetricDocs.Decimal
