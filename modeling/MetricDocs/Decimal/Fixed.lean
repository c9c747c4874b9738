/-
  Numbers with a fixed count of decimal places.

  * `roundHalfEven num den` is the whole number nearest to `num / den`, a half going to the even
    neighbour;
  * `withPlaces` puts the point into a whole number of units of the last place;
  * `fixedDigits` writes the exact value of a positive number rounded so, `fixedText` that of a
    double with its sign.
-/
import MetricDocs.Decimal.Shortest

namespace MetricDocs.Decimal

/-- The nearest whole number to a quotient; a half goes to the even neighbour. -/
def roundHalfEven (num den : Nat) : Nat :=
  let d := num / den
  let rest := num % den
  if 2 * rest < den then d
  else if 2 * rest > den then d + 1
  else if d % 2 = 0 then d else d + 1

/-- A whole number of units of the last place, with the point put in; without places the point comes
    last. -/
def withPlaces (places n : Nat) : List Char :=
  let ds := padded (places + 1) n
  ds.take (ds.length - places) ++ '.' :: ds.drop (ds.length - places)

/-- A positive number with `places` decimal places. -/
def fixedDigits (places : Nat) (b : Binary) : List Char :=
  withPlaces places
    (roundHalfEven (b.m * Nat.pow 2 b.q.toNat * Nat.pow 10 places) (Nat.pow 2 (-b.q).toNat))

/-- A double with `places` decimal places (one at least). -/
def fixedText (places : Nat) (x : Float) : String :=
  let sign := if isNegative x then ['-'] else []
  String.ofList <| match magnitude x with
    | .nan => "nan".toList
    | .infinite => sign ++ "inf".toList
    | .zero => sign ++ withPlaces places 0
    | .finite b => sign ++ fixedDigits places b

example : fixedText 3 1.0005 = "1.000" ∧ fixedText 3 2.0625 = "2.062" ∧
    fixedText 3 (-0.0004) = "-0.000" := by decide +kernel

end MetricDocs.Decimal
