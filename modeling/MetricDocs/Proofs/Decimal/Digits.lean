/-
  Digits of whole numbers.

  * `lt_pow_length` and `pow_length_le`: the number of digits says between which powers of ten a
    number lies, `lt_zpow_length` and `zpow_length_le` for rational powers;
  * `natDigits_eq_cons_zero`: only zero begins with a zero;
  * `ofDigits_append`, `ofDigits_replicate_zero`: what digits and zeros denote;
  * `length_padded`: a number that fits is padded to the full width;
  * `padded_lt_padded`: padded numbers are in the order of the numbers.
-/
import Mathlib
import MetricDocs.Decimal.Digits

namespace MetricDocs.Decimal

variable {n : ℕ}

theorem length_natDigits_pos (n : ℕ) : 0 < (natDigits n).length := Nat.length_toDigits_pos

theorem lt_pow_length (n : ℕ) : n < 10 ^ (natDigits n).length :=
  (Nat.length_toDigits_le_iff (by decide) (length_natDigits_pos n)).1 le_rfl

theorem pow_length_le (hn : 0 < n) : 10 ^ ((natDigits n).length - 1) ≤ n := by
  rcases Nat.eq_zero_or_pos ((natDigits n).length - 1) with h | h
  · rw [h]
    exact hn
  · by_contra hlt
    have hle := (Nat.length_toDigits_le_iff (by decide) h).2 (not_le.1 hlt)
    have hpos := length_natDigits_pos n
    rw [natDigits] at h hpos hle
    omega

theorem lt_zpow_length (n : ℕ) : (n : ℚ) < 10 ^ ((natDigits n).length : ℤ) := by
  rw [zpow_natCast]
  exact_mod_cast lt_pow_length n

theorem zpow_length_le (hn : 0 < n) : (10 : ℚ) ^ ((natDigits n).length - 1 : ℤ) ≤ n := by
  rw [← Nat.cast_pred (length_natDigits_pos n), zpow_natCast]
  exact_mod_cast pow_length_le hn

theorem eq_zero_of_digitChar : ∀ d < 10, Nat.digitChar d = '0' → d = 0 := by decide

theorem natDigits_of_lt_ten (h : n < 10) : natDigits n = [n.digitChar] :=
  Nat.toDigits_of_lt_base h

theorem natDigits_of_ten_le (h : 10 ≤ n) :
    natDigits n = natDigits (n / 10) ++ [(n % 10).digitChar] :=
  Nat.toDigits_of_base_le (by decide) h

theorem natDigits_eq_cons_zero {ds : List Char} (h : natDigits n = '0' :: ds) :
    n = 0 ∧ ds = [] := by
  induction n using Nat.strong_induction_on generalizing ds with
  | _ n ih =>
    rcases lt_or_ge n 10 with hlt | hge
    · rw [natDigits_of_lt_ten hlt] at h
      obtain ⟨hc, rfl⟩ := List.cons.inj h
      exact ⟨eq_zero_of_digitChar n hlt hc, rfl⟩
    · rw [natDigits_of_ten_le hge] at h
      rcases hd : natDigits (n / 10) with _ | ⟨d, ds'⟩
      · exact absurd hd (natDigits_ne_nil _)
      · rw [hd, List.cons_append] at h
        obtain ⟨rfl, -⟩ := List.cons.inj h
        have := (ih (n / 10) (by omega) hd).1
        omega

theorem ofDigits_append (cs ds : List Char) :
    ofDigits (cs ++ ds) = ofDigits cs * 10 ^ ds.length + ofDigits ds := by
  rw [ofDigits, Nat.ofDigitChars_append, Nat.ofDigitChars_eq_ofDigitChars_zero, mul_comm]
  rfl

theorem ofDigits_replicate_zero (k : ℕ) : ofDigits (List.replicate k '0') = 0 := by
  simp [ofDigits]

theorem tooLong_eq_false_of_lt {n : ℤ} (h : n.natAbs < 10) : tooLong n = false := by
  have hten : ∀ k ≠ 0, 10 ≤ Nat.pow 10 k := fun k hk => Nat.le_self_pow hk 10
  rw [tooLong, decide_eq_false_iff_not, ge_iff_le, not_le]
  exact h.trans_le (hten maxDigits (by decide))

/-! ## Padding -/

section
variable {width : ℕ}

theorem isDigit_of_mem_padded {c : Char} (h : c ∈ padded width n) : c.isDigit = true := by
  rcases List.mem_append.1 h with h | h
  · rw [List.eq_of_mem_replicate h]
    rfl
  · exact isDigit_of_mem_natDigits h

theorem padded_ne_nil : padded width n ≠ [] := by
  simp [padded, natDigits_ne_nil]

theorem ofDigits_padded : ofDigits (padded width n) = n := by
  rw [padded, ofDigits_append, ofDigits_replicate_zero, ofDigits_natDigits, zero_mul, zero_add]

theorem length_padded (h : n < 10 ^ width) (hwidth : 0 < width) :
    (padded width n).length = width := by
  have hle : (natDigits n).length ≤ width :=
    (Nat.length_toDigits_le_iff (by decide) hwidth).2 h
  simp only [padded, List.length_append, List.length_replicate]
  omega

theorem padded_eq_natDigits (h : 10 ^ (width - 1) ≤ n) (hwidth : 1 < width) :
    padded width n = natDigits n := by
  have hlong : ¬ (natDigits n).length ≤ width - 1 := by
    intro hle
    have := (Nat.length_toDigits_le_iff (by decide) (by omega)).1 hle
    omega
  have hzeros : width - (natDigits n).length = 0 := by omega
  simp [padded, hzeros]

end

/-! ## The order of digits -/

section
variable {cs ds : List Char} {c d : Char}

theorem ofDigits_cons (c : Char) (cs : List Char) :
    ofDigits (c :: cs) = (c.toNat - '0'.toNat) * 10 ^ cs.length + ofDigits cs := by
  have hdigit : ofDigits [c] = c.toNat - '0'.toNat := by simp [ofDigits, Nat.ofDigitChars_cons]
  rw [← List.singleton_append, ofDigits_append, hdigit]

theorem ofDigits_lt_pow (h : ∀ c ∈ cs, c.isDigit = true) : ofDigits cs < 10 ^ cs.length := by
  induction cs with
  | nil => decide
  | cons c cs ih =>
    obtain ⟨hc, hcs⟩ := List.forall_mem_cons.1 h
    have hdigit : c.toNat - '0'.toNat < 10 := by
      have hbounds := Char.isDigit_iff_toNat.1 hc
      have hends : '0'.toNat = 48 ∧ '9'.toNat = 57 := by simp
      omega
    have hhead := Nat.mul_le_mul_right (10 ^ cs.length) (Nat.le_of_lt_succ hdigit)
    have htail := ih hcs
    rw [ofDigits_cons, List.length_cons, pow_succ]
    omega

/-- **Of two runs of digits of one length**, the one that denotes less comes first. -/
theorem lt_of_ofDigits_lt (hcs : ∀ c ∈ cs, c.isDigit = true) (hds : ∀ d ∈ ds, d.isDigit = true)
    (hlength : cs.length = ds.length) (h : ofDigits cs < ofDigits ds) : cs < ds := by
  induction cs generalizing ds with
  | nil =>
    rw [List.eq_nil_of_length_eq_zero hlength.symm] at h
    exact absurd h (lt_irrefl _)
  | cons c cs ih =>
    cases ds with
    | nil => cases hlength
    | cons d ds =>
      obtain ⟨-, hcs'⟩ := List.forall_mem_cons.1 hcs
      obtain ⟨hd, hds'⟩ := List.forall_mem_cons.1 hds
      have htails : cs.length = ds.length := Nat.succ.inj hlength
      rw [ofDigits_cons, ofDigits_cons, htails] at h
      rw [List.cons_lt_cons_iff]
      rcases lt_trichotomy c d with hlt | rfl | hgt
      · exact Or.inl hlt
      · exact Or.inr ⟨rfl, ih hcs' hds' htails (by omega)⟩
      · -- a greater first digit counts for more than all that follow the other
        have hfirst : d.toNat - '0'.toNat + 1 ≤ c.toNat - '0'.toNat := by
          have hbounds := (Char.isDigit_iff_toNat.1 hd).1
          have hgt : d.toNat < c.toNat := hgt
          omega
        have hscaled := Nat.mul_le_mul_right (10 ^ ds.length) hfirst
        have htail := ofDigits_lt_pow hds'
        rw [add_mul] at hscaled
        omega

/-- **Padded numbers are in the order of the numbers.** -/
theorem padded_lt_padded {width m n : ℕ} (hm : m < 10 ^ width) (hn : n < 10 ^ width) (h : m < n) :
    padded width m < padded width n := by
  have hwidth : 0 < width := by
    by_contra hzero
    obtain rfl : width = 0 := by omega
    omega
  refine lt_of_ofDigits_lt (fun _ => isDigit_of_mem_padded) (fun _ => isDigit_of_mem_padded) ?_ ?_
  · rw [length_padded hm hwidth, length_padded hn hwidth]
  · rwa [ofDigits_padded, ofDigits_padded]

end

end MetricDocs.Decimal
