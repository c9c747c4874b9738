/-
  The shortest decimal that reads back as a given double.

  A positive finite double is `m · 2^q`; the reals that round to it form an interval, ends
  included iff `m` is even, with a lower half half as long where `m` is the least normal
  significand.  The decimals `d · 10^i` with a fixed `i` are a grid.

  * `Binary.ofFloat?` takes a double apart;
  * `onGrid?` is the member of the grid `i` nearest to the number among those in its interval,
    an even digit winning a tie;
  * `shortest` tries the grids from coarse to fine and takes the first hit.
-/
import MetricDocs.Decimal.Digits

namespace MetricDocs.Decimal

/-- The positive number `m · 2^q`. -/
structure Binary where
  m : Nat
  q : Int
  deriving DecidableEq, Repr

/-- The positive number `digits · 10^exponent`. -/
structure Scientific where
  digits : Nat
  exponent : Int
  deriving DecidableEq, Repr

/-- What a double is, sign apart. -/
inductive Magnitude where
  | nan
  | infinite
  | zero
  | finite (x : Binary)
  deriving DecidableEq, Repr

def isNegative (x : Float) : Bool := x.toBits.toNat / Nat.pow 2 63 = 1

/-- The magnitude of a double, from its exponent and fraction bits. -/
def magnitude (x : Float) : Magnitude :=
  let bits : Nat := x.toBits.toNat
  let e : Nat := bits / Nat.pow 2 52 % Nat.pow 2 11
  let f : Nat := bits % Nat.pow 2 52
  if e = 2047 then (if f = 0 then .infinite else .nan)
  else if e = 0 then (if f = 0 then .zero else .finite ⟨f, -1074⟩)
  else .finite ⟨f + Nat.pow 2 52, e - 1075⟩

/-- The four bounds that decide which decimals of a grid read back: numerators over the common
    denominator `den` of the number, of the two ends of its interval, and of one grid step. -/
structure Scale where
  value : Nat
  low : Nat
  high : Nat
  step : Nat
  closed : Bool

/-- The number `x`, its interval and the step of the grid `10^i` over one denominator. -/
def Scale.of (x : Binary) (i : Int) : Scale :=
  let up := Nat.pow 2 (x.q - 2).toNat * Nat.pow 10 (-i).toNat
  let below := if x.m = Nat.pow 2 52 ∧ x.q > -1074 then 1 else 2
  { value := 4 * x.m * up
    low := (4 * x.m - below) * up
    high := (4 * x.m + 2) * up
    step := Nat.pow 2 (2 - x.q).toNat * Nat.pow 10 i.toNat
    closed := x.m % 2 = 0 }

/-- Whether the grid point `d` lies in the interval. -/
def Scale.holds (s : Scale) (d : Nat) : Bool :=
  let point := d * s.step
  if s.closed then s.low ≤ point && point ≤ s.high else s.low < point && point < s.high

/-- The grid point in the interval that is nearest to the number, if there is one: it is one of
    the two neighbours of the number, and of two equally near the even one is taken. -/
def onGrid? (x : Binary) (i : Int) : Option Nat :=
  let s := Scale.of x i
  let d := s.value / s.step
  let rest := s.value % s.step
  match s.holds d, s.holds (d + 1) with
  | true, false => some d
  | false, true => some (d + 1)
  | false, false => none
  | true, true =>
    if 2 * rest < s.step then some d
    else if 2 * rest > s.step then some (d + 1)
    else if d % 2 = 0 then some d else some (d + 1)

/-- The first hit on the grids `10^i`, `10^(i-1)`, …; `fuel` bounds the number of grids. -/
def firstHit (x : Binary) : Nat → Int → Scientific
  | 0, i => ⟨0, i⟩
  | fuel + 1, i =>
    match onGrid? x i with
    | some d => ⟨d, i⟩
    | none => firstHit x fuel (i - 1)

/-- The shortest decimal in the interval of `x`, nearest to `x` among those.  The search starts at
    a power of ten above `x`; seventeen digits always suffice. -/
def shortest (x : Binary) : Scientific :=
  let num := x.m * Nat.pow 2 x.q.toNat
  let den := Nat.pow 2 (-x.q).toNat
  firstHit x 22 ((natDigits num).length - (natDigits den).length + 1)

example : shortest ⟨1, -1074⟩ = ⟨5, -324⟩ := by decide +kernel
example : shortest ⟨Nat.pow 2 53 - 1, 971⟩ = ⟨17976931348623157, 292⟩ := by decide +kernel

end MetricDocs.Decimal
