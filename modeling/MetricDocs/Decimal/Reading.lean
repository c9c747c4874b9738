/-
  Reading a double from decimal text.

  A numeral is an optional sign, then digits with an optional point among or around them and an
  optional exponent, or one of the words `inf`, `infinity`, `nan` in any case.

  * `scaled` is the double nearest to `m · 10^e`, with a sign;
  * `readFloat?` reads a whole text as a numeral, and refuses anything else.
-/
import MetricDocs.Decimal.Nearest

namespace MetricDocs.Decimal

/-- The bits of the double nearest to `m · 10^e`.  Exponents far outside the range of doubles are
    settled by the number of digits alone. -/
def scaledBits (m : Nat) (e : Int) : Nat :=
  let top := (natDigits m).length + e
  if m = 0 ∨ top < -400 then 0
  else if top > 400 then infinityBits
  else nearestBits (m * Nat.pow 10 e.toNat) (Nat.pow 10 (-e).toNat)

theorem scaledBits_le (m : Nat) (e : Int) : scaledBits m e ≤ infinityBits := by
  unfold scaledBits
  simp only
  split
  · exact Nat.zero_le _
  · split
    · exact Nat.le_refl _
    · exact nearestBits_le _ _

/-- The double nearest to `m · 10^e`, with a sign. -/
def scaled (negative : Bool) (m : Nat) (e : Int) : Float :=
  ofBits negative (scaledBits m e) (scaledBits_le m e)

/-- An exponent behind its mark: an optional sign and at least one digit. -/
def readExponent? : List Char → Option Int
  | '-' :: ds => if ds.isEmpty || !ds.all Char.isDigit then none else some (-(ofDigits ds : Int))
  | '+' :: ds => if ds.isEmpty || !ds.all Char.isDigit then none else some (ofDigits ds)
  | ds => if ds.isEmpty || !ds.all Char.isDigit then none else some (ofDigits ds)

/-- A number whose digits are `ds`, `places` of them behind the point, followed by `rest`: nothing or
    an exponent. -/
def withExponent? (negative : Bool) (ds : List Char) (places : Nat) (rest : List Char) :
    Option Float :=
  if ds.isEmpty then none
  else match rest with
    | [] => some (scaled negative (ofDigits ds) (-(places : Int)))
    | c :: r =>
      if c = 'e' ∨ c = 'E' then
        (readExponent? r).map fun e => scaled negative (ofDigits ds) (e - places)
      else none

def readMagnitude? (negative : Bool) (cs : List Char) : Option Float :=
  let word := cs.map Char.toLower
  if word = "nan".toList then some (0.0 / 0.0)
  else if word = "inf".toList ∨ word = "infinity".toList then
    some (ofBits negative infinityBits (Nat.le_refl _))
  else
    let whole := cs.takeWhile Char.isDigit
    match cs.dropWhile Char.isDigit with
    | '.' :: r =>
      let part := r.takeWhile Char.isDigit
      withExponent? negative (whole ++ part) part.length (r.dropWhile Char.isDigit)
    | r => withExponent? negative whole 0 r

def readFloat? : List Char → Option Float
  | '-' :: cs => readMagnitude? true cs
  | '+' :: cs => readMagnitude? false cs
  | cs => readMagnitude? false cs

end MetricDocs.Decimal
