/-
  The double nearest to a rational number.

  The doubles around a positive number are the multiples of `2^q`, where `q` is fifty-two places
  behind the first binary place of the number, or the least exponent there is.  The bits of a
  double, sign apart, count the doubles from zero on, so that rounding up to a power of two needs
  no case of its own.

  * `lastPlace` is `q`, and `roundEven` rounds to a whole number, a tie going to the even one;
  * `nearestBits` are the bits of the nearest double, those of infinity beyond the largest;
  * `ofBits` is the double of a sign and bits.
-/
import MetricDocs.Decimal.Digits

namespace MetricDocs.Decimal

/-- The whole number nearest to `num / den`, of two equally near the even one. -/
def roundEven (num den : Nat) : Nat :=
  let n := num / den
  let rest := 2 * (num % den)
  if rest < den then n else if den < rest then n + 1 else n + n % 2

/-- The exponent of the last place of the doubles around `num / den`. -/
def lastPlace (num den : Nat) : Int :=
  let k : Int := (num.log2 : Int) - den.log2
  let first := if den * Nat.pow 2 k.toNat ≤ num * Nat.pow 2 (-k).toNat then k else k - 1
  max (first - 52) (-1074)

/-- The bits of infinity, sign apart. -/
def infinityBits : Nat := 2047 * Nat.pow 2 52

/-- The bits of the double nearest to `num / den`, sign apart. -/
def nearestBits (num den : Nat) : Nat :=
  let q := lastPlace num den
  let m := roundEven (num * Nat.pow 2 (-q).toNat) (den * Nat.pow 2 q.toNat)
  min ((q + 1074).toNat * Nat.pow 2 52 + m) infinityBits

theorem nearestBits_le (num den : Nat) : nearestBits num den ≤ infinityBits := Nat.min_le_right _ _

/-- The word of a sign and the other bits. -/
def word (negative : Bool) (bits : Nat) : UInt64 :=
  .ofNat (bits + if negative then Nat.pow 2 63 else 0)

theorem valid_word (negative : Bool) {bits : Nat} (h : bits ≤ infinityBits) :
    Float.Model.Format.binary64.Valid (word negative bits).toBitVec := by
  refine ⟨fun he hm => absurd (BitVec.eq_of_toNat_eq ?_) hm⟩
  have he := congrArg BitVec.toNat he
  simp only [word, Float.Model.UnpackedFloat.unpackExponent,
    Float.Model.UnpackedFloat.unpackMantissa, BitVec.toNat_cast, BitVec.extractLsb_toNat,
    UInt64.toNat_toBitVec, UInt64.toNat_ofNat'] at he ⊢
  simp [infinityBits, Nat.shiftRight_eq_div_pow] at *
  cases negative <;> simp at * <;> omega

/-- The double of a sign and the other bits. -/
def ofBits (negative : Bool) (bits : Nat) (h : bits ≤ infinityBits) : Float :=
  .ofModel ⟨word negative bits, valid_word negative h⟩

end MetricDocs.Decimal
