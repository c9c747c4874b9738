/-
  How a double is written.

  A layout says which decimal exponents are written positionally, how the words for the special
  values are spelled and how an exponent looks; the digits are always the shortest that read back.

  * `Layout.plain` is the layout of documents, logs and answers;
  * `Layout.exposition` is that of the text exposition for positive numbers: it goes over to
    exponents from `10^6` on;
  * `Layout.render` writes a double.
-/
import MetricDocs.Decimal.Shortest

namespace MetricDocs.Decimal

/-- The choices of a floating point format. -/
structure Layout where
  /-- The least decimal exponent written positionally. -/
  positionalFrom : Int
  /-- The least decimal exponent above those written positionally. -/
  positionalBelow : Int
  nan : String
  positiveInfinity : String
  negativeInfinity : String

/-- Positional from `0.0001` up to below `10^16`. -/
def Layout.plain : Layout := ⟨-4, 16, "nan", "inf", "-inf"⟩

/-- Positional from `0.0001` up to below `10^6`. -/
def Layout.exposition : Layout := ⟨-4, 6, "NaN", "+Inf", "-Inf"⟩

/-- An exponent: its sign always, and at least two digits. -/
def exponentText (e : Int) : List Char :=
  (if e < 0 then '-' else '+') :: padded 2 e.natAbs

/-- A whole or fractional number without exponent, at least one digit on both sides of the point. -/
def positional (ds : List Char) (exponent : Int) : List Char :=
  if 0 ≤ exponent then ds ++ List.replicate exponent.toNat '0' ++ ['.', '0']
  else
    let places := (-exponent).toNat
    if places < ds.length then
      ds.take (ds.length - places) ++ '.' :: ds.drop (ds.length - places)
    else ['0', '.'] ++ List.replicate (places - ds.length) '0' ++ ds

/-- One digit, the others after a point, and an exponent. -/
def scientific (ds : List Char) (e : Int) : List Char :=
  match ds with
  | [] => []
  | [d] => d :: 'e' :: exponentText e
  | d :: rest => d :: '.' :: rest ++ 'e' :: exponentText e

/-- The digits of a positive decimal in a layout. -/
def Layout.digits (l : Layout) (x : Scientific) : List Char :=
  let ds := natDigits x.digits
  let e := x.exponent + ds.length - 1
  if l.positionalFrom ≤ e ∧ e < l.positionalBelow then positional ds x.exponent else scientific ds e

def Layout.render (l : Layout) (x : Float) : List Char :=
  match magnitude x with
  | .nan => l.nan.toList
  | .infinite => (if isNegative x then l.negativeInfinity else l.positiveInfinity).toList
  | .zero => (if isNegative x then ['-'] else []) ++ "0.0".toList
  | .finite b => (if isNegative x then ['-'] else []) ++ l.digits (shortest b)

/-- The text of a double in documents, logs and answers. -/
def floatText (x : Float) : String := String.ofList (Layout.plain.render x)

/-- The text of a double in the text exposition: only positive numbers use the exposition's own
    bound for exponents. -/
def expositionText (x : Float) : String :=
  let l := if isNegative x then { Layout.exposition with positionalBelow := 16 } else .exposition
  String.ofList (l.render x)

example : floatText 1e16 = "1e+16" ∧ floatText 0.0001 = "0.0001" ∧ floatText 1.5e-7 = "1.5e-07" := by
  decide +kernel
example : expositionText 12345678 = "1.2345678e+07" ∧ expositionText 0.1 = "0.1" := by
  decide +kernel

end MetricDocs.Decimal
