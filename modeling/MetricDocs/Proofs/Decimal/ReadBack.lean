/-
  The shortest decimal of a double reads back as the double.

  * `Scale.holds_iff`: a point of a grid is accepted iff it rounds to the number;
  * `start_lt` and `onGrid?_ne_none`: the grids that are searched reach one that is finer than half
    the last place, and such a grid has a point that rounds to the number;
  * `shortest_rounds`: so the shortest decimal rounds to the number;
  * `magnitude_eq_finite`: a finite double is in lowest form, and its bits are those of its word;
  * `isFinite_iff`: the doubles that are finite are those of a finite magnitude;
  * `scaled_shortest`: reading the shortest decimal of a finite double gives the double.
-/
import MetricDocs.Proofs.Decimal.Digits
import MetricDocs.Proofs.Decimal.Nearest
import MetricDocs.Decimal.Reading

namespace MetricDocs.Decimal

/-! ## Points of a grid -/

section
variable {x : Binary} {i : ℤ} {d : ℕ}

/-- The common denominator of a scale. -/
private def common (x : Binary) (i : ℤ) : ℚ := 2 ^ (-(x.q - 2)).toNat * 10 ^ (-i).toNat

private theorem common_pos : 0 < common x i := by unfold common; positivity

private theorem step_eq : ((Scale.of x i).step : ℚ) = 10 ^ i * common x i := by
  simp only [Scale.of, Nat.pow_eq, common]
  push_cast
  rw [pow_toNat (by norm_num : (10 : ℚ) ≠ 0) i, neg_sub]
  ring

private theorem up_eq : ((Nat.pow 2 (x.q - 2).toNat * Nat.pow 10 (-i).toNat : ℕ) : ℚ) =
    2 ^ (x.q - 2) * common x i := by
  simp only [Nat.pow_eq, common]
  push_cast
  rw [pow_toNat two_ne_zero (x.q - 2)]
  ring

private theorem value_eq : ((Scale.of x i).value : ℚ) = 4 * x.m * 2 ^ (x.q - 2) * common x i := by
  have hup := up_eq (x := x) (i := i)
  simp only [Scale.of]
  push_cast at hup ⊢
  rw [hup]
  ring

private theorem high_eq :
    ((Scale.of x i).high : ℚ) = (4 * x.m + 2) * 2 ^ (x.q - 2) * common x i := by
  have hup := up_eq (x := x) (i := i)
  simp only [Scale.of]
  push_cast at hup ⊢
  rw [hup]
  ring

private theorem low_eq (hx : 0 < x.m) :
    ((Scale.of x i).low : ℚ) = (4 * x.m - x.below) * 2 ^ (x.q - 2) * common x i := by
  have hup := up_eq (x := x) (i := i)
  have hbelow : x.below ≤ 4 * x.m := x.below_le_two.trans (by omega)
  have hlow : (Scale.of x i).low =
      (4 * x.m - x.below) * (Nat.pow 2 (x.q - 2).toNat * Nat.pow 10 (-i).toNat) := rfl
  rw [hlow, Nat.cast_mul, hup, Nat.cast_sub hbelow]
  push_cast
  ring

/-- **A point of a grid is accepted iff it rounds to the number.** -/
theorem Scale.holds_iff (hx : 0 < x.m) :
    (Scale.of x i).holds d = true ↔ x.Rounds (d * 10 ^ i) := by
  have hc := common_pos (x := x) (i := i)
  -- the ends of the interval and the grid point, all over the common denominator
  have hlow : (Scale.of x i).low ≤ d * (Scale.of x i).step ↔
      (4 * x.m - x.below) * (2 : ℚ) ^ (x.q - 2) ≤ d * 10 ^ i := by
    rw [← Nat.cast_le (α := ℚ), Nat.cast_mul, low_eq hx, step_eq, ← mul_assoc (d : ℚ)]
    exact mul_le_mul_iff_of_pos_right hc
  have hhigh : d * (Scale.of x i).step ≤ (Scale.of x i).high ↔
      d * 10 ^ i ≤ (4 * x.m + 2) * (2 : ℚ) ^ (x.q - 2) := by
    rw [← Nat.cast_le (α := ℚ), Nat.cast_mul, high_eq, step_eq, ← mul_assoc (d : ℚ)]
    exact mul_le_mul_iff_of_pos_right hc
  have hlow' : (Scale.of x i).low < d * (Scale.of x i).step ↔
      (4 * x.m - x.below) * (2 : ℚ) ^ (x.q - 2) < d * 10 ^ i := by
    rw [← Nat.cast_lt (α := ℚ), Nat.cast_mul, low_eq hx, step_eq, ← mul_assoc (d : ℚ)]
    exact mul_lt_mul_iff_of_pos_right hc
  have hhigh' : d * (Scale.of x i).step < (Scale.of x i).high ↔
      d * 10 ^ i < (4 * x.m + 2) * (2 : ℚ) ^ (x.q - 2) := by
    rw [← Nat.cast_lt (α := ℚ), Nat.cast_mul, high_eq, step_eq, ← mul_assoc (d : ℚ)]
    exact mul_lt_mul_iff_of_pos_right hc
  have hclosed : (Scale.of x i).closed = true ↔ x.m % 2 = 0 := decide_eq_true_iff
  rw [Scale.holds, Binary.Rounds]
  by_cases heven : x.m % 2 = 0
  · rw [if_pos (hclosed.2 heven), Bool.and_eq_true, decide_eq_true_iff, decide_eq_true_iff, hlow,
      hhigh]
    simp [heven]
  · rw [if_neg fun h => heven (hclosed.1 h), Bool.and_eq_true, decide_eq_true_iff,
      decide_eq_true_iff, hlow', hhigh']
    constructor
    · exact fun h => ⟨h.1.le, h.2.le, Or.inr h⟩
    · exact fun h => h.2.2.resolve_left heven

/-! ## The search -/

theorem onGrid?_eq_some (hx : 0 < x.m) (h : onGrid? x i = some d) : x.Rounds (d * 10 ^ i) := by
  rw [← Scale.holds_iff hx]
  unfold onGrid? at h
  simp only at h
  split at h
  · cases h; assumption
  · cases h; assumption
  · cases h
  · split_ifs at h <;> cases h <;> assumption

/-- A grid finer than half the last place has a point that rounds to the number: the one above. -/
theorem holds_above (hx : 0 < x.m) (hi : (10 : ℚ) ^ i < 2 ^ (x.q - 1)) :
    (Scale.of x i).holds ((Scale.of x i).value / (Scale.of x i).step + 1) = true := by
  have hc := common_pos (x := x) (i := i)
  have hu : (2 : ℚ) ^ (x.q - 1) = 2 * 2 ^ (x.q - 2) := by
    rw [← two_zpow_succ]; congr 1; ring
  have hu0 : (0 : ℚ) < 2 ^ (x.q - 2) := by positivity
  have hstep : 0 < (Scale.of x i).step := by
    rw [← Nat.cast_pos (α := ℚ), step_eq]
    positivity
  rw [Scale.holds_iff hx]
  set d := (Scale.of x i).value / (Scale.of x i).step with hd
  have hlt : (Scale.of x i).value < (d + 1) * (Scale.of x i).step :=
    Nat.lt_mul_of_div_lt (Nat.lt_succ_self _) hstep
  have hle : d * (Scale.of x i).step ≤ (Scale.of x i).value := Nat.div_mul_le_self _ _
  rw [← Nat.cast_lt (α := ℚ), Nat.cast_mul, value_eq, step_eq, ← mul_assoc] at hlt
  rw [← Nat.cast_le (α := ℚ), Nat.cast_mul, value_eq, step_eq, ← mul_assoc] at hle
  have hlt : 4 * x.m * (2 : ℚ) ^ (x.q - 2) < (d + 1 : ℕ) * 10 ^ i :=
    lt_of_mul_lt_mul_right hlt hc.le
  have hle : (d : ℚ) * 10 ^ i ≤ 4 * x.m * 2 ^ (x.q - 2) := le_of_mul_le_mul_right hle hc
  have hlow : (4 * x.m - x.below) * (2 : ℚ) ^ (x.q - 2) < (d + 1 : ℕ) * 10 ^ i := by
    have hbelow : (0 : ℚ) ≤ x.below * 2 ^ (x.q - 2) := by positivity
    linarith
  have hhigh : ((d + 1 : ℕ) : ℚ) * 10 ^ i < (4 * x.m + 2) * 2 ^ (x.q - 2) := by
    push_cast
    linarith
  exact ⟨hlow.le, hhigh.le, Or.inr ⟨hlow, hhigh⟩⟩

theorem onGrid?_ne_none (hx : 0 < x.m) (hi : (10 : ℚ) ^ i < 2 ^ (x.q - 1)) :
    onGrid? x i ≠ none := by
  have habove := holds_above hx hi
  unfold onGrid?
  simp only [habove]
  split
  · simp
  · simp
  · simp_all
  · split_ifs <;> simp

theorem firstHit_eq {fuel : ℕ} {j : ℤ} (hj : j ≤ i) (hfuel : i - j < fuel)
    (hhit : onGrid? x j ≠ none) :
    ∃ d k, firstHit x fuel i = ⟨d, k⟩ ∧ onGrid? x k = some d := by
  induction fuel generalizing i with
  | zero => omega
  | succ fuel ih =>
    rw [firstHit]
    cases hi : onGrid? x i with
    | some d => exact ⟨d, i, rfl, hi⟩
    | none =>
      have hne : j ≠ i := by
        rintro rfl
        exact hhit hi
      exact ih (by omega) (by omega)

end

theorem start_lt (x : Binary) (hpos : 0 < x.m) (hlt : x.m < 2 ^ 53) :
    (10 : ℚ) ^ ((natDigits (x.m * Nat.pow 2 x.q.toNat)).length -
      (natDigits (Nat.pow 2 (-x.q).toNat)).length + 1 - 19 : ℤ) < 2 ^ (x.q - 1) := by
  set num := x.m * Nat.pow 2 x.q.toNat with hnum
  set den := Nat.pow 2 (-x.q).toNat with hden
  have hnum0 : 0 < num := Nat.mul_pos hpos (Nat.pow_pos two_pos)
  have hden0 : (0 : ℚ) < den := by
    exact_mod_cast (Nat.pow_pos two_pos : 0 < Nat.pow 2 (-x.q).toNat)
  have hvalue : (num : ℚ) = x.m * 2 ^ x.q * den := by
    rw [hnum, hden, Nat.pow_eq, Nat.pow_eq]
    push_cast
    rw [pow_toNat two_ne_zero x.q]
    ring
  have hm : (x.m : ℚ) < 2 ^ 53 := by exact_mod_cast hlt
  have hhalf : (2 : ℚ) ^ x.q = 2 * 2 ^ (x.q - 1) := by
    rw [← two_zpow_succ]; congr 1; ring
  have hhalf0 : (0 : ℚ) < 2 ^ (x.q - 1) := by positivity
  have hsplit : (10 : ℚ) ^ ((natDigits num).length - (natDigits den).length + 1 - 19 : ℤ) *
      10 ^ ((natDigits den).length : ℤ) * 10 ^ 17 = 10 ^ ((natDigits num).length - 1 : ℤ) := by
    rw [← zpow_natCast (10 : ℚ) 17, ← zpow_add₀ (by norm_num), ← zpow_add₀ (by norm_num)]
    congr 1
    push_cast
    ring
  set t : ℚ := 10 ^ ((natDigits num).length - (natDigits den).length + 1 - 19 : ℤ) with ht
  have ht0 : 0 < t := by positivity
  -- otherwise the numerator is below `2 ^ 54 * t * den`, which has fewer digits than it
  by_contra hge
  have hge : (2 : ℚ) ^ (x.q - 1) ≤ t := not_lt.1 hge
  have : (num : ℚ) < t * 10 ^ ((natDigits den).length : ℤ) * 10 ^ 17 := by
    calc (num : ℚ) = x.m * (2 * 2 ^ (x.q - 1)) * den := by rw [hvalue, hhalf]
      _ ≤ 2 ^ 53 * (2 * t) * den := by gcongr
      _ < 2 ^ 53 * (2 * t) * 10 ^ ((natDigits den).length : ℤ) := by
        gcongr
        exact lt_zpow_length den
      _ ≤ t * 10 ^ ((natDigits den).length : ℤ) * 10 ^ 17 := by
        have : (0 : ℚ) < t * 10 ^ ((natDigits den).length : ℤ) := by positivity
        linarith
  rw [hsplit] at this
  exact absurd (zpow_length_le hnum0) (not_le.2 this)

/-- **The shortest decimal of a number rounds to the number.** -/
theorem shortest_rounds {x : Binary} (hpos : 0 < x.m) (hlt : x.m < 2 ^ 53) :
    x.Rounds ((shortest x).digits * 10 ^ (shortest x).exponent) := by
  obtain ⟨d, k, hhit, hd⟩ := firstHit_eq (sub_le_self _ (by decide : (0 : ℤ) ≤ 19))
    (by rw [sub_sub_cancel]; decide : _ < ((22 : ℕ) : ℤ))
    (onGrid?_ne_none hpos (start_lt x hpos hlt))
  have hshortest : shortest x = ⟨d, k⟩ := hhit
  rw [hshortest]
  exact onGrid?_eq_some hpos hd

theorem shortest_pos {x : Binary} (hpos : 0 < x.m) (hlt : x.m < 2 ^ 53) :
    0 < (shortest x).digits := by
  rcases Nat.eq_zero_or_pos (shortest x).digits with h | h
  · have hlow := (shortest_rounds hpos hlt).1
    rw [h, Nat.cast_zero, zero_mul] at hlow
    have hu0 : (0 : ℚ) < 2 ^ (x.q - 2) := by positivity
    have hm1 : (1 : ℚ) ≤ x.m := by exact_mod_cast hpos
    have hbelow : (x.below : ℚ) ≤ 2 := by exact_mod_cast x.below_le_two
    nlinarith
  · exact h

/-! ## Reading back -/

private theorem range_lt_cutoff : (2 : ℚ) ^ 1076 < 10 ^ 400 := calc
  (2 : ℚ) ^ 1076 ≤ 2 ^ (3 * 400) := pow_le_pow_right₀ one_le_two (by norm_num)
  _ = (2 ^ 3) ^ 400 := pow_mul _ _ _
  _ < 10 ^ 400 := pow_lt_pow_left₀ (by norm_num) (by norm_num) (by norm_num)

private theorem lt_of_zpow_lt {i j : ℤ} (h : (10 : ℚ) ^ i < 10 ^ j) : i < j :=
  (zpow_lt_zpow_iff_right₀ (by norm_num)).1 h

section
variable {x : Binary} {d : ℕ} {i : ℤ}

theorem cutoff_lt_top (hx : x.Canonical) (hlow : (2 : ℚ) ^ (x.q - 2) ≤ d * 10 ^ i) :
    -400 < (natDigits d).length + i := by
  refine lt_of_zpow_lt ?_
  calc (10 : ℚ) ^ (-400 : ℤ) < 2 ^ (-1074 - 2 : ℤ) := by
        rw [zpow_neg, show (-1074 - 2 : ℤ) = -1076 by norm_num, zpow_neg]
        exact (inv_lt_inv₀ (by positivity) (by positivity)).2 (by exact_mod_cast range_lt_cutoff)
    _ ≤ 2 ^ (x.q - 2) := zpow_le_zpow_right₀ one_le_two (sub_le_sub_right hx.least 2)
    _ ≤ d * 10 ^ i := hlow
    _ ≤ 10 ^ ((natDigits d).length : ℤ) * 10 ^ i := by
      gcongr
      exact (lt_zpow_length d).le
    _ = 10 ^ ((natDigits d).length + i) := by rw [zpow_add₀ (by norm_num)]

theorem top_lt_cutoff (hfinite : x.q ≤ 971) (hd : 0 < d)
    (hhigh : (d : ℚ) * 10 ^ i ≤ 2 ^ 55 * 2 ^ (x.q - 2)) :
    (natDigits d).length + i - 1 < 400 := by
  refine lt_of_zpow_lt ?_
  calc (10 : ℚ) ^ ((natDigits d).length + i - 1) =
        10 ^ ((natDigits d).length - 1 : ℤ) * 10 ^ i := by
        rw [← zpow_add₀ (by norm_num)]
        congr 1
        ring
    _ ≤ d * 10 ^ i := by
      gcongr
      exact zpow_length_le hd
    _ ≤ 2 ^ 55 * 2 ^ (x.q - 2) := hhigh
    _ ≤ 2 ^ 55 * 2 ^ (971 - 2 : ℤ) := by
      gcongr
      exact one_le_two
    _ = 2 ^ 1024 := by rw [← zpow_natCast, ← zpow_natCast, ← zpow_add₀ two_ne_zero]; rfl
    _ ≤ 2 ^ 1076 := pow_le_pow_right₀ one_le_two (by norm_num)
    _ < 10 ^ 400 := range_lt_cutoff
    _ = 10 ^ (400 : ℤ) := (zpow_natCast _ _).symm

private theorem mul_zpow_eq_div (d : ℕ) (i : ℤ) :
    (d : ℚ) * 10 ^ i = (d * Nat.pow 10 i.toNat : ℕ) / (Nat.pow 10 (-i).toNat : ℕ) := by
  rw [Nat.pow_eq, Nat.pow_eq]
  push_cast
  rw [pow_toNat (by norm_num : (10 : ℚ) ≠ 0) i]
  field_simp

theorem scaledBits_eq (hx : x.Canonical) (hfinite : x.q ≤ 971) (hd : x.Rounds (d * 10 ^ i)) :
    scaledBits d i = x.bits := by
  have hu : (0 : ℚ) < 2 ^ (x.q - 2) := by positivity
  have hm : (x.m : ℚ) + 1 ≤ 2 ^ 53 := by exact_mod_cast hx.lt
  have hm1 : (1 : ℚ) ≤ x.m := by exact_mod_cast hx.pos
  have hbelow : (x.below : ℚ) ≤ 2 := by exact_mod_cast x.below_le_two
  have hlow : (2 : ℚ) ^ (x.q - 2) ≤ d * 10 ^ i := by
    refine le_trans ?_ hd.1
    nlinarith
  have hhigh : (d : ℚ) * 10 ^ i ≤ 2 ^ 55 * 2 ^ (x.q - 2) := by
    refine hd.2.1.trans ?_
    nlinarith
  have hpos : 0 < d := by
    rcases Nat.eq_zero_or_pos d with rfl | h
    · rw [Nat.cast_zero, zero_mul] at hlow
      exact absurd hlow (not_le.2 hu)
    · exact h
  have htoplow := cutoff_lt_top hx hlow
  have htophigh := top_lt_cutoff hfinite hpos hhigh
  rw [scaledBits, if_neg (by omega), if_neg (by omega)]
  exact nearestBits_eq hx (Nat.mul_pos hpos (Nat.pow_pos (by decide))) (Nat.pow_pos (by decide))
    (mul_zpow_eq_div d i ▸ hd)

end

/-! ## Words -/

section
variable {x : Float}

theorem ofBits_eq {bits : ℕ} (h : bits ≤ infinityBits)
    (hx : x.toBits.toNat = bits + if isNegative x then Nat.pow 2 63 else 0) :
    ofBits (isNegative x) bits h = x := by
  obtain ⟨⟨w, hvalid⟩⟩ := x
  have hword : word (isNegative ⟨⟨w, hvalid⟩⟩) bits = w := by
    rw [word, ← hx]
    exact UInt64.ofNat_toNat
  rw [ofBits]
  simp only [hword]

private theorem word_split (x : Float) : x.toBits.toNat =
    x.toBits.toNat / Nat.pow 2 52 % Nat.pow 2 11 * 2 ^ 52 + x.toBits.toNat % Nat.pow 2 52 +
      if isNegative x then Nat.pow 2 63 else 0 := by
  have hlt : x.toBits.toNat < 2 ^ 64 := x.toBits.toNat_lt
  simp only [isNegative, decide_eq_true_eq, Nat.pow_eq]
  split_ifs <;> omega

/-- **A finite double is in lowest form**, and its word has the bits of it. -/
theorem magnitude_eq_finite {b : Binary} (h : magnitude x = .finite b) :
    b.Canonical ∧ b.q ≤ 971 ∧
      x.toBits.toNat = b.bits + if isNegative x then Nat.pow 2 63 else 0 := by
  have hsplit := word_split x
  have he : x.toBits.toNat / Nat.pow 2 52 % Nat.pow 2 11 < 2 ^ 11 := Nat.mod_lt _ (by decide)
  have hf : x.toBits.toNat % Nat.pow 2 52 < 2 ^ 52 := Nat.mod_lt _ (by decide)
  simp only [magnitude] at h
  generalize x.toBits.toNat / Nat.pow 2 52 % Nat.pow 2 11 = e at *
  generalize x.toBits.toNat % Nat.pow 2 52 = f at *
  have hinf : infinityBits = 2047 * 2 ^ 52 := rfl
  have hpow : Nat.pow 2 52 = 2 ^ 52 := rfl
  split_ifs at h with h1 h2 h3 h4 <;> cases h
  · refine ⟨⟨Nat.pos_of_ne_zero h4, by simp only; omega, le_rfl, Or.inl rfl⟩, by norm_num, ?_⟩
    rw [hsplit, Binary.bits, hinf, min_eq_left (by simp only; omega), h3]
    rfl
  · rw [hpow]
    refine ⟨⟨by simp only; omega, by simp only; omega, by simp only; omega,
      Or.inr (by simp only; omega)⟩, by simp only; omega, ?_⟩
    rw [hsplit, Binary.bits, hinf, min_eq_left (by simp only; omega)]
    simp only
    omega

theorem magnitude_eq_zero (h : magnitude x = .zero) :
    x.toBits.toNat = 0 + if isNegative x then Nat.pow 2 63 else 0 := by
  have hsplit := word_split x
  simp only [magnitude] at h
  split_ifs at h with h1 h2 h3 h4
  rw [h3, h4] at hsplit
  simpa using hsplit

open Float.Model in
theorem isFinite_unpack (spec : Format) (b : BitVec spec.numBits) :
    (UnpackedFloat.unpack spec b).isFinite = decide (UnpackedFloat.unpackExponent b ≠ -1#_) := by
  unfold UnpackedFloat.unpack
  simp only
  split_ifs with hones <;> simp [UnpackedFloat.isFinite, hones]

open Float.Model in
/-- **A double is finite** iff its magnitude is. -/
theorem isFinite_iff (x : Float) :
    x.isFinite = true ↔ magnitude x ≠ .infinite ∧ magnitude x ≠ .nan := by
  have hexponent : (@UnpackedFloat.unpackExponent Format.binary64 x.toBits.toBitVec).toNat =
      x.toBits.toNat / Nat.pow 2 52 % Nat.pow 2 11 := by
    change x.toBits.toNat >>> 52 % 2 ^ 11 = _
    rw [Nat.shiftRight_eq_div_pow]
  have hfinite : x.isFinite =
      decide (x.toBits.toNat / Nat.pow 2 52 % Nat.pow 2 11 ≠ 2047) := by
    rw [← hexponent]
    refine (isFinite_unpack Format.binary64 x.toBits.toBitVec).trans (decide_eq_decide.2 ?_)
    rw [← BitVec.toNat_ne_iff_ne]
    exact Iff.rfl
  rw [hfinite, decide_eq_true_iff]
  simp only [magnitude]
  split_ifs with hones <;> simp [hones]

/-- **Reading the shortest decimal of a finite double gives the double**, however its digits are
    split between significand and exponent. -/
theorem scaled_shortest {b : Binary} (h : magnitude x = .finite b) {d : ℕ} {i : ℤ}
    (hd : (d : ℚ) * 10 ^ i = (shortest b).digits * 10 ^ (shortest b).exponent) :
    scaled (isNegative x) d i = x := by
  obtain ⟨hb, hfinite, hbits⟩ := magnitude_eq_finite h
  refine ofBits_eq _ ?_
  rw [scaledBits_eq hb hfinite (hd ▸ shortest_rounds hb.pos hb.lt), hbits]

theorem scaled_zero (h : magnitude x = .zero) (e : ℤ) : scaled (isNegative x) 0 e = x := by
  refine ofBits_eq _ ?_
  rw [magnitude_eq_zero h, scaledBits, if_pos (Or.inl rfl)]

end

end MetricDocs.Decimal
