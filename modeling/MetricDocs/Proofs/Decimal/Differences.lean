/-
  Differences of doubles.

  A double that is no number differs from itself.  The difference of two finite doubles is a number
  or an infinity, and so it equals itself.

  * `sub_ne_notANumber`: rounding makes no finite difference something that is no number;
  * `unpack_pack_ne_notANumber`: nor does packing into bits, whose all ones in the exponent are kept
    for the infinities;
  * `beq_self_sub`: the difference of two finite doubles equals itself.
-/
import MetricDocs.Proofs.Decimal.Equality

namespace MetricDocs.Decimal

open Float.Model Float.Model.UnpackedFloat

section
variable {spec : Format} {u v : UnpackedFloat}

/-! ## Rounding -/

theorem roundWithAccuracy_ne_notANumber (sign : Sign) (m : ℕ) (e : ℤ) (accuracy : Accuracy) :
    roundWithAccuracy spec sign m e accuracy ≠ .notANumber := by
  simp only [roundWithAccuracy]
  split <;> exact nofun

theorem normalize_ne_notANumber (m e : ℤ) (zeroSign : Sign) :
    UnpackedFloat.normalize spec m e zeroSign ≠ .notANumber := by
  unfold UnpackedFloat.normalize
  split
  · exact roundWithAccuracy_ne_notANumber _ _ _ _
  · exact nofun
  · exact roundWithAccuracy_ne_notANumber _ _ _ _

theorem sub_ne_notANumber (hu : u.isFinite) (hv : v.isFinite) :
    UnpackedFloat.sub spec u v ≠ .notANumber := by
  cases u with
  | infinity _ | notANumber => cases hu
  | zero s =>
    cases v with
    | infinity _ | notANumber => cases hv
    | zero s' =>
      rw [UnpackedFloat.sub]
      split <;> exact nofun
    | finite => exact nofun
  | finite =>
    cases v with
    | infinity _ | notANumber => cases hv
    | zero => exact nofun
    | finite => exact normalize_ne_notANumber _ _ _

/-! ## Bits -/

/-- All ones in the exponent stand for an infinity, unless what was packed was no number. -/
theorem unpackMantissa_pack (hu : u ≠ .notANumber)
    (he : unpackExponent (UnpackedFloat.pack spec u) = -1#_) :
    unpackMantissa (UnpackedFloat.pack spec u) = 0#_ := by
  have hones : (2 : ℕ) ≤ 2 ^ spec.exponentBits := Nat.le_self_pow spec.he.ne' 2
  cases u with
  | notANumber => exact absurd rfl hu
  | infinity s => simp [UnpackedFloat.pack, packedInfinity]
  | zero s => simp [UnpackedFloat.pack, packedZero]
  | finite s m e hm =>
    simp only [UnpackedFloat.pack] at he ⊢
    split_ifs at he ⊢ with hlarge hnormal
    · simp [packedInfinity]
    · -- the exponent of a normal number lies below all ones
      rw [unpackExponent_packComponents, ← BitVec.toNat_inj, BitVec.toNat_ofNat,
        BitVec.neg_one_eq_allOnes, BitVec.toNat_allOnes, Nat.mod_eq_of_lt (by omega)] at he
      omega
    · rw [unpackExponent_packComponents, ← BitVec.toNat_inj, BitVec.neg_one_eq_allOnes,
        BitVec.toNat_allOnes, BitVec.toNat_zero] at he
      omega

theorem unpack_pack_ne_notANumber (hu : u ≠ .notANumber) :
    UnpackedFloat.unpack spec (UnpackedFloat.pack spec u) ≠ .notANumber := by
  unfold UnpackedFloat.unpack
  simp only
  split_ifs with he hm hz hm'
  · exact nofun
  · exact absurd (unpackMantissa_pack hu he) hm
  · exact nofun
  · exact nofun
  · exact nofun

end

/-- **The difference of two finite doubles equals itself.** -/
theorem beq_self_sub {x y : Float} (hx : x.isFinite) (hy : y.isFinite) : (x - y == x - y) = true :=
  beq_self (unpack_pack_ne_notANumber (sub_ne_notANumber hx hy))

end MetricDocs.Decimal
