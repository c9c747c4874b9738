/-
  Rounding to the nearest double.

  A positive double is `m · 2^q` in lowest form (`Binary.Canonical`).  The numbers that round to it
  form an interval (`Binary.Rounds`): up to half a place above it, and down to half a place below
  it, or a quarter where the doubles below are twice as dense; the ends belong to it iff `m` is
  even.

  * `lastPlace_eq` and `roundEven_eq`: the last place and the whole number that fit are found;
  * `nearestBits_eq`: a number of the interval of a double has the bits of that double.
-/
import Mathlib
import MetricDocs.Decimal.Shortest
import MetricDocs.Decimal.Nearest

namespace MetricDocs.Decimal

/-! ## Powers -/

theorem pow_toNat {b : ℚ} (hb : b ≠ 0) (i : ℤ) : b ^ i.toNat = b ^ i * b ^ (-i).toNat := by
  obtain ⟨n, rfl | rfl⟩ := i.eq_nat_or_neg
  · simp
  · simp [hb]

theorem two_zpow_succ (i : ℤ) : (2 : ℚ) ^ (i + 1) = 2 * 2 ^ i := by
  rw [zpow_add_one₀ two_ne_zero, mul_comm]

theorem two_zpow_sub_two (i : ℤ) : (2 : ℚ) ^ (i - 2) = 2 ^ i / 4 := by
  rw [zpow_sub₀ two_ne_zero]
  norm_num

theorem two_zpow_log2_le {n : ℕ} (h : 0 < n) :
    (2 : ℚ) ^ (n.log2 : ℤ) ≤ n ∧ (n : ℚ) < 2 ^ (n.log2 + 1 : ℤ) := by
  constructor
  · exact_mod_cast Nat.log2_self_le h.ne'
  · exact_mod_cast Nat.lt_log2_self

/-! ## The last place -/

section
variable {num den : ℕ} {q : ℤ}

theorem cleared_le_iff (hden : 0 < den) (k : ℤ) :
    den * Nat.pow 2 k.toNat ≤ num * Nat.pow 2 (-k).toNat ↔ (2 : ℚ) ^ k ≤ num / den := by
  have hd : (0 : ℚ) < den := by exact_mod_cast hden
  have hc : (0 : ℚ) < 2 ^ (-k).toNat := by positivity
  rw [Nat.pow_eq, Nat.pow_eq, ← Nat.cast_le (α := ℚ), le_div_iff₀ hd]
  push_cast
  rw [pow_toNat two_ne_zero k, ← mul_assoc, mul_comm (den : ℚ)]
  exact mul_le_mul_iff_of_pos_right hc

theorem exists_first_place (hnum : 0 < num) (hden : 0 < den) :
    ∃ first : ℤ, lastPlace num den = max (first - 52) (-1074) ∧
      (2 : ℚ) ^ first ≤ num / den ∧ (num : ℚ) / den < 2 ^ (first + 1) := by
  have hd : (0 : ℚ) < den := by exact_mod_cast hden
  obtain ⟨hnum₁, hnum₂⟩ := two_zpow_log2_le hnum
  obtain ⟨hden₁, hden₂⟩ := two_zpow_log2_le hden
  set k : ℤ := (num.log2 : ℤ) - den.log2 with hk
  have hupper : (num : ℚ) / den < 2 ^ (k + 1) := by
    rw [div_lt_iff₀ hd]
    calc (num : ℚ) < 2 ^ (num.log2 + 1 : ℤ) := hnum₂
      _ = 2 ^ (k + 1) * 2 ^ (den.log2 : ℤ) := by
        rw [← zpow_add₀ two_ne_zero]; congr 1; omega
      _ ≤ 2 ^ (k + 1) * den := by gcongr
  have hlower : (2 : ℚ) ^ (k - 1) ≤ num / den := by
    rw [le_div_iff₀ hd]
    calc (2 : ℚ) ^ (k - 1) * den ≤ 2 ^ (k - 1) * 2 ^ (den.log2 + 1 : ℤ) := by gcongr
      _ = 2 ^ (num.log2 : ℤ) := by rw [← zpow_add₀ two_ne_zero]; congr 1; omega
      _ ≤ num := hnum₁
  -- the difference of the two lengths is the first place, or one above it
  by_cases hcase : den * Nat.pow 2 k.toNat ≤ num * Nat.pow 2 (-k).toNat
  · refine ⟨k, ?_, (cleared_le_iff hden k).1 hcase, hupper⟩
    simp only [lastPlace, ← hk, if_pos hcase]
  · refine ⟨k - 1, ?_, hlower, ?_⟩
    · simp only [lastPlace, ← hk, if_neg hcase]
    · rw [sub_add_cancel]
      exact not_le.1 fun h => hcase ((cleared_le_iff hden k).2 h)

/-- **The last place is found** from a binade of the number. -/
theorem lastPlace_eq (hnum : 0 < num) (hden : 0 < den) (hq : -1074 ≤ q)
    (hlt : (num : ℚ) / den < 2 ^ (q + 53)) (hle : q = -1074 ∨ (2 : ℚ) ^ (q + 52) ≤ num / den) :
    lastPlace num den = q := by
  have hpow {i j : ℤ} (h : (2 : ℚ) ^ i < 2 ^ j) : i < j :=
    (zpow_lt_zpow_iff_right₀ one_lt_two).1 h
  obtain ⟨first, hfirst, hfirst₁, hfirst₂⟩ := exists_first_place hnum hden
  have h₁ : first < q + 53 := hpow (hfirst₁.trans_lt hlt)
  rw [hfirst]
  rcases hle with hle | hle
  · omega
  · have h₂ : q + 52 < first + 1 := hpow (hle.trans_lt hfirst₂)
    omega

/-! ## The whole number -/

/-- **The nearest whole number is found**, if a tie belongs to it. -/
theorem roundEven_eq {m : ℕ} (hden : 0 < den) (hlow : 2 * m * den ≤ 2 * num + den)
    (hhigh : 2 * num ≤ 2 * m * den + den)
    (htie : 2 * m * den = 2 * num + den ∨ 2 * num = 2 * m * den + den → m % 2 = 0) :
    roundEven num den = m := by
  have hsplit : num = den * (num / den) + num % den := (Nat.div_add_mod num den).symm
  have hrest : num % den < den := Nat.mod_lt _ hden
  rw [roundEven]
  generalize num / den = n at *
  generalize num % den = r at *
  subst hsplit
  have hn : n ≤ m := by
    by_contra hlt
    have : den * (m + 1) ≤ den * n := Nat.mul_le_mul_left _ (by omega)
    nlinarith
  have hm : m ≤ n + 1 := by
    by_contra hlt
    have : den * (n + 2) ≤ den * m := Nat.mul_le_mul_left _ (by omega)
    nlinarith
  obtain rfl | rfl : m = n ∨ m = n + 1 := by omega
  · have hr : 2 * r ≤ den := by nlinarith
    rcases hr.lt_or_eq with hr | hr
    · simp [hr]
    · have heven : m % 2 = 0 := htie (Or.inr (by nlinarith))
      simp [hr, heven]
  · have hr : den ≤ 2 * r := by nlinarith
    rcases hr.lt_or_eq with hr | hr
    · simp [hr, hr.le.not_gt]
    · have heven : (n + 1) % 2 = 0 := htie (Or.inl (by nlinarith))
      simp [← hr]
      omega

theorem roundEven_cleared {m : ℕ} (hden : 0 < den)
    (hlow : (2 * m - 1) * (2 : ℚ) ^ q ≤ 2 * (num / den))
    (hhigh : 2 * (num / den) ≤ (2 * m + 1) * (2 : ℚ) ^ q)
    (htie : m % 2 = 0 ∨
      (2 * m - 1) * (2 : ℚ) ^ q < 2 * (num / den) ∧ 2 * (num / den) < (2 * m + 1) * (2 : ℚ) ^ q) :
    roundEven (num * Nat.pow 2 (-q).toNat) (den * Nat.pow 2 q.toNat) = m := by
  have hd : (0 : ℚ) < den := by exact_mod_cast hden
  have hc : (0 : ℚ) < 2 ^ (-q).toNat := by positivity
  have hdc : (0 : ℚ) < den * 2 ^ (-q).toNat := mul_pos hd hc
  -- everything over the common denominator
  have hnum : (num * Nat.pow 2 (-q).toNat : ℕ) = (num / den : ℚ) * (den * 2 ^ (-q).toNat) := by
    rw [Nat.pow_eq]
    push_cast
    field_simp
  have hden' : (den * Nat.pow 2 q.toNat : ℕ) = (2 : ℚ) ^ q * (den * 2 ^ (-q).toNat) := by
    rw [Nat.pow_eq]
    push_cast
    rw [pow_toNat two_ne_zero q]
    ring
  refine roundEven_eq (Nat.mul_pos hden (Nat.pow_pos two_pos)) ?_ ?_ fun hor => ?_
  · rw [← Nat.cast_le (α := ℚ)]
    push_cast [hnum, hden']
    nlinarith
  · rw [← Nat.cast_le (α := ℚ)]
    push_cast [hnum, hden']
    nlinarith
  · rcases htie with heven | ⟨hlow', hhigh'⟩
    · exact heven
    · rcases hor with heq | heq <;>
        · have heq := congrArg (Nat.cast (R := ℚ)) heq
          push_cast [hnum, hden'] at heq
          nlinarith

end

/-! ## The interval of a double -/

namespace Binary

/-- A positive double in lowest form: a full significand, or the least exponent. -/
structure Canonical (x : Binary) : Prop where
  pos : 0 < x.m
  lt : x.m < 2 ^ 53
  least : -1074 ≤ x.q
  full : x.q = -1074 ∨ 2 ^ 52 ≤ x.m

/-- How far the interval of a double reaches down, in quarters of its last place. -/
def below (x : Binary) : ℕ := if x.m = Nat.pow 2 52 ∧ x.q > -1074 then 1 else 2

theorem below_le_two (x : Binary) : x.below ≤ 2 := by
  unfold below
  split <;> decide

/-- A number rounds to a double. -/
def Rounds (x : Binary) (v : ℚ) : Prop :=
  (4 * x.m - x.below) * (2 : ℚ) ^ (x.q - 2) ≤ v ∧ v ≤ (4 * x.m + 2) * (2 : ℚ) ^ (x.q - 2) ∧
    (x.m % 2 = 0 ∨
      (4 * x.m - x.below) * (2 : ℚ) ^ (x.q - 2) < v ∧ v < (4 * x.m + 2) * (2 : ℚ) ^ (x.q - 2))

/-- The bits of a double, sign apart. -/
def bits (x : Binary) : ℕ := min ((x.q + 1074).toNat * 2 ^ 52 + x.m) infinityBits

end Binary

section
variable {x : Binary} {num den : ℕ}

private theorem cast_below_le_two (x : Binary) : ((x.below : ℕ) : ℚ) ≤ 2 := by
  exact_mod_cast x.below_le_two

private theorem two_zpow_eq_quarters (q : ℤ) : (2 : ℚ) ^ q = 4 * 2 ^ (q - 2) := by
  rw [two_zpow_sub_two]
  ring

private theorem nearestBits_eq_of_within (hx : x.Canonical) (hnum : 0 < num) (hden : 0 < den)
    (hv : x.Rounds (num / den)) (hcase : x.q = -1074 ∨ (2 : ℚ) ^ (x.q + 52) ≤ num / den) :
    nearestBits num den = x.bits := by
  obtain ⟨hlow, hhigh, htie⟩ := hv
  have hbelow := cast_below_le_two x
  have hq := two_zpow_eq_quarters x.q
  have hu : (0 : ℚ) < 2 ^ (x.q - 2) := by positivity
  have hm : (x.m : ℚ) + 1 ≤ 2 ^ 53 := by exact_mod_cast hx.lt
  have hplace : lastPlace num den = x.q := by
    refine lastPlace_eq hnum hden hx.least ?_ hcase
    rw [zpow_add₀ two_ne_zero, hq]
    norm_num
    nlinarith
  have hround : roundEven (num * Nat.pow 2 (-x.q).toNat) (den * Nat.pow 2 x.q.toNat) = x.m := by
    refine roundEven_cleared hden ?_ ?_ (htie.imp_right fun ⟨hlow', hhigh'⟩ => ⟨?_, ?_⟩) <;>
      · rw [hq]
        nlinarith
  rw [nearestBits]
  simp only [hplace, hround]
  rfl

private theorem significand_eq_of_below (hx : x.Canonical) {v : ℚ} (hv : x.Rounds v)
    (hne : x.q ≠ -1074) (hlt : v < 2 ^ (x.q + 52)) : x.m = 2 ^ 52 := by
  have hu : (0 : ℚ) < 2 ^ (x.q - 2) := by positivity
  have hlow := hv.1
  rw [zpow_add₀ two_ne_zero, two_zpow_eq_quarters] at hlt
  norm_num at hlt
  have hfull : 2 ^ 52 ≤ x.m := hx.full.resolve_left hne
  by_contra hm
  have hbelow := cast_below_le_two x
  have hm : (2 : ℚ) ^ 52 + 1 ≤ x.m := by
    exact_mod_cast Nat.succ_le_of_lt (lt_of_le_of_ne hfull (Ne.symm hm))
  nlinarith

/-- Below a power of two the doubles are twice as dense, and a number that rounds to that power has
    the last place of the doubles below. -/
private theorem nearestBits_eq_of_below (hx : x.Canonical) (hnum : 0 < num) (hden : 0 < den)
    (hv : x.Rounds (num / den)) (hne : x.q ≠ -1074) (hlt : (num / den : ℚ) < 2 ^ (x.q + 52)) :
    nearestBits num den = x.bits := by
  have hm := significand_eq_of_below hx hv hne hlt
  have hbelow : x.below = 1 := if_pos ⟨hm, lt_of_le_of_ne hx.least (Ne.symm hne)⟩
  have hlow := hv.1
  have hq := two_zpow_eq_quarters x.q
  have hu : (0 : ℚ) < 2 ^ (x.q - 2) := by positivity
  rw [zpow_add₀ two_ne_zero, hq] at hlt
  norm_num at hlt
  rw [hbelow, hm] at hlow
  push_cast at hlow
  have hq1 : (2 : ℚ) ^ (x.q - 1) = 2 * 2 ^ (x.q - 2) := by
    rw [zpow_sub_one₀ two_ne_zero, hq]
    ring
  have hleast := hx.least
  have hplace : lastPlace num den = x.q - 1 := by
    refine lastPlace_eq hnum hden (by omega) ?_ (Or.inr ?_)
    · rw [zpow_add₀ two_ne_zero, hq1]
      norm_num
      linarith
    · rw [zpow_add₀ two_ne_zero, hq1]
      norm_num
      linarith
  have hround : roundEven (num * Nat.pow 2 (-(x.q - 1)).toNat) (den * Nat.pow 2 (x.q - 1).toNat) =
      2 ^ 53 := by
    refine roundEven_cleared hden ?_ ?_ (Or.inl rfl) <;>
      · rw [hq1]
        push_cast
        linarith
  have hcount : (x.q - 1 + 1074).toNat * 2 ^ 52 + 2 ^ 53 = (x.q + 1074).toNat * 2 ^ 52 + x.m := by
    have hsucc : (x.q + 1074).toNat = (x.q - 1 + 1074).toNat + 1 := by omega
    rw [hsucc, hm]
    ring
  rw [nearestBits]
  simp only [hplace]
  rw [hround]
  exact congrArg (min · infinityBits) hcount

/-- **A number of the interval of a double has the bits of that double.** -/
theorem nearestBits_eq (hx : x.Canonical) (hnum : 0 < num) (hden : 0 < den)
    (hv : x.Rounds (num / den)) : nearestBits num den = x.bits := by
  by_cases hcase : x.q = -1074 ∨ (2 : ℚ) ^ (x.q + 52) ≤ num / den
  · exact nearestBits_eq_of_within hx hnum hden hv hcase
  · rw [not_or, not_le] at hcase
    exact nearestBits_eq_of_below hx hnum hden hv hcase.1 hcase.2

end

end MetricDocs.Decimal
