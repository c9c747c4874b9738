/-
  The double of an integer, and the integer of a double.

  * `nearestBits_lt`: below `2^1023` a number rounds to no infinity;
  * `exists_nearest`: so every integer that far from zero has a double;
  * `natAbs_truncate?_lt`: the integer part of a double lies within `2^1024`, and so it is never too
    long to be written (`tooLong_of_truncate?`).
-/
import MetricDocs.Decimal.Whole
import MetricDocs.Proofs.Decimal.ReadBack

namespace MetricDocs.Decimal

theorem roundEven_le (num den : ℕ) : roundEven num den ≤ num / den + 1 := by
  simp only [roundEven]
  split_ifs <;> omega

/-- **A number below `2^1023` rounds to no infinity.** -/
theorem nearestBits_lt {n : ℕ} (hpos : 0 < n) (h : n < 2 ^ 1023) :
    nearestBits n 1 < infinityBits := by
  obtain ⟨first, hplace, hlow, hhigh⟩ := exists_first_place hpos one_pos
  rw [Nat.cast_one, div_one] at hlow hhigh
  have hfirst : first < 1023 := by
    have hn : (n : ℚ) < 2 ^ (1023 : ℤ) := by exact_mod_cast h
    exact (zpow_lt_zpow_iff_right₀ one_lt_two).1 (hlow.trans_lt hn)
  clear h
  rw [nearestBits]
  generalize lastPlace n 1 = q at hplace ⊢
  -- the significand keeps its fifty-three places, or becomes the next power of two
  have hround : roundEven (n * Nat.pow 2 (-q).toNat) (1 * Nat.pow 2 q.toNat) ≤ 2 ^ 53 := by
    refine (roundEven_le _ _).trans (Nat.div_lt_of_lt_mul ?_)
    have hexp : first + 1 ≤ q + 53 := by omega
    have hn : (n : ℚ) < 2 ^ q * 2 ^ (53 : ℤ) := by
      rw [← zpow_add₀ two_ne_zero]
      exact hhigh.trans_le (zpow_le_zpow_right₀ one_le_two hexp)
    rw [← Nat.cast_lt (α := ℚ), Nat.pow_eq, Nat.pow_eq]
    push_cast
    rw [pow_toNat two_ne_zero q, one_mul]
    calc (n : ℚ) * 2 ^ (-q).toNat < 2 ^ q * 2 ^ (53 : ℤ) * 2 ^ (-q).toNat := by gcongr
      _ = 2 ^ q * 2 ^ (-q).toNat * 2 ^ 53 := by
        rw [mul_right_comm]
        rfl
  have hexponent : (q + 1074).toNat ≤ 2044 := by omega
  have hinfinity : infinityBits = 2047 * 2 ^ 52 := rfl
  refine (Nat.min_le_left _ _).trans_lt ?_
  rw [hinfinity, Nat.pow_eq]
  omega

/-- **Every integer less than `2^1023` away from zero has a double.** -/
theorem exists_nearest {n : ℤ} (h : n.natAbs < 2 ^ 1023) : ∃ x, nearest? n = some x := by
  have hbits : (if n = 0 then 0 else nearestBits n.natAbs 1) < infinityBits := by
    split_ifs with hzero
    · exact Nat.mul_pos (by decide) (Nat.pow_pos two_pos)
    · exact nearestBits_lt (Int.natAbs_pos.2 hzero) h
  exact ⟨_, dif_pos hbits⟩

/-- **The integer part of a double lies within `2^1024`.** -/
theorem natAbs_truncate?_lt {x : Float} {n : ℤ} (h : truncate? x = some n) :
    n.natAbs < 2 ^ 1024 := by
  rw [truncate?] at h
  cases hx : magnitude x with
  | nan | infinite => rw [hx] at h; cases h
  | zero =>
    rw [hx] at h
    rw [← Option.some.inj h, Int.natAbs_zero]
    positivity
  | finite b =>
    rw [hx] at h
    obtain ⟨hb, hq, -⟩ := magnitude_eq_finite hx
    have hwhole : b.m * Nat.pow 2 b.q.toNat / Nat.pow 2 (-b.q).toNat < 2 ^ 1024 := by
      calc b.m * Nat.pow 2 b.q.toNat / Nat.pow 2 (-b.q).toNat ≤ b.m * 2 ^ b.q.toNat :=
            Nat.div_le_self _ _
        _ ≤ b.m * 2 ^ 971 := by gcongr <;> omega
        _ < 2 ^ 53 * 2 ^ 971 := by gcongr; exact hb.lt
        _ = 2 ^ 1024 := by rw [← pow_add]
    have hn := (Option.some.inj h).symm
    split_ifs at hn
    · rwa [hn, Int.natAbs_neg, Int.natAbs_natCast]
    · rwa [hn, Int.natAbs_natCast]

theorem two_pow_le_ten_pow {j k : ℕ} (h : j ≤ k) : 2 ^ j ≤ 10 ^ k :=
  (Nat.pow_le_pow_left (by decide) j).trans (Nat.pow_le_pow_right (by decide) h)

theorem tooLong_of_truncate? {x : Float} {n : ℤ} (h : truncate? x = some n) :
    tooLong n = false := by
  have hdigits : 1024 ≤ maxDigits := by decide
  rw [tooLong, decide_eq_false_iff_not, ge_iff_le, not_le, Nat.pow_eq]
  generalize maxDigits = k at hdigits
  exact (natAbs_truncate?_lt h).trans_le (two_pow_le_ten_pow hdigits)

end MetricDocs.Decimal
