/-
  Days and dates.

  * `yearLength y`: the days of a year; `daysBefore_succ` and `daysBefore_mono`: the days before a
    year add up;
  * `monthAndDay_spec` and `monthAndDay_lt`: the months of a year cut its days into runs, in order;
  * `exists_ofOrdinal`: the date of a day lies in the year that the day lies in;
  * `ordinal_ofOrdinal` and `valid_ofOrdinal`: every day has a date, and the date exists;
  * `ofOrdinal_lt`: a later day has a later date, by year, month and day.
-/
import Mathlib
import MetricDocs.Calendar

namespace MetricDocs

/-! ## Years -/

/-- The number of days of a year. -/
def yearLength (year : ℤ) : ℕ := if isLeap year then 366 else 365

theorem sum_monthLengths (year : ℤ) : (monthLengths year).sum = yearLength year := by
  unfold monthLengths yearLength
  split_ifs <;> rfl

theorem isLeap_iff {year : ℤ} :
    isLeap year = true ↔ year % 4 = 0 ∧ (year % 100 ≠ 0 ∨ year % 400 = 0) := by
  simp [isLeap]

theorem daysBefore_succ (y : ℤ) : daysBefore (y + 1) = daysBefore y + yearLength (y + 1) := by
  unfold daysBefore yearLength
  have hleap := @isLeap_iff (y + 1)
  split_ifs with h
  · rw [h] at hleap
    simp only [true_iff] at hleap
    omega
  · have hnot := mt hleap.2 h
    omega

theorem daysBefore_mono {x y : ℤ} (h : x ≤ y) : daysBefore x ≤ daysBefore y := by
  unfold daysBefore
  omega

theorem daysBefore_cycles {q c f k : ℤ} (hc : 0 ≤ c ∧ c ≤ 3) (hf : 0 ≤ f ∧ f ≤ 24)
    (hk : 0 ≤ k ∧ k ≤ 3) :
    daysBefore (400 * q + (100 * c + 4 * f + k)) = 146097 * q + 36524 * c + 1461 * f + 365 * k := by
  have hfour : (400 * q + (100 * c + 4 * f + k)) / 4 = 100 * q + 25 * c + f := by omega
  have hhundred : (400 * q + (100 * c + 4 * f + k)) / 100 = 4 * q + c := by omega
  have hcycle : (400 * q + (100 * c + 4 * f + k)) / 400 = q := by omega
  rw [daysBefore, hfour, hhundred, hcycle]
  ring

/-! ## Months -/

theorem monthAndDay_of_lt {len d : ℕ} (lens : List ℕ) (h : d < len) :
    monthAndDay (len :: lens) d = (0, d) := by
  rw [monthAndDay, if_pos h]

theorem monthAndDay_of_le {len d : ℕ} (lens : List ℕ) (h : len ≤ d) :
    monthAndDay (len :: lens) d =
      ((monthAndDay lens (d - len)).1 + 1, (monthAndDay lens (d - len)).2) := by
  rw [monthAndDay, if_neg (not_lt.2 h)]

theorem monthAndDay_spec {lens : List ℕ} {d : ℕ} (h : d < lens.sum) :
    (lens.take (monthAndDay lens d).1).sum + (monthAndDay lens d).2 = d ∧
      ∃ len, lens[(monthAndDay lens d).1]? = some len ∧ (monthAndDay lens d).2 < len := by
  induction lens generalizing d with
  | nil => simp at h
  | cons len lens ih =>
    rcases lt_or_ge d len with hd | hd
    · rw [monthAndDay_of_lt lens hd]
      exact ⟨by simp, len, rfl, hd⟩
    · rw [List.sum_cons] at h
      obtain ⟨hsum, hlen⟩ := @ih (d - len) (by omega)
      rw [monthAndDay_of_le lens hd]
      refine ⟨?_, hlen⟩
      rw [List.take_succ_cons, List.sum_cons]
      omega

theorem monthAndDay_lt {lens : List ℕ} {d e : ℕ} (h : d < e) (he : e < lens.sum) :
    (monthAndDay lens d).1 < (monthAndDay lens e).1 ∨
      (monthAndDay lens d).1 = (monthAndDay lens e).1 ∧
        (monthAndDay lens d).2 < (monthAndDay lens e).2 := by
  induction lens generalizing d e with
  | nil => simp at he
  | cons len lens ih =>
    rw [List.sum_cons] at he
    rcases lt_or_ge e len with hlen | hlen
    · rw [monthAndDay_of_lt lens hlen, monthAndDay_of_lt lens (h.trans hlen)]
      exact Or.inr ⟨rfl, h⟩
    rcases lt_or_ge d len with hd | hd
    · rw [monthAndDay_of_lt lens hd, monthAndDay_of_le lens hlen]
      exact Or.inl (Nat.succ_pos _)
    · rw [monthAndDay_of_le lens hd, monthAndDay_of_le lens hlen]
      rcases @ih (d - len) (e - len) (by omega) (by omega) with hmonth | ⟨hmonth, hday⟩
      · exact Or.inl (Nat.succ_lt_succ hmonth)
      · exact Or.inr ⟨by rw [hmonth], hday⟩

/-! ## Dates -/

namespace Date

/-- The date of a day of a year, both counted from zero. -/
def ofYearDay (y : ℤ) (d : ℕ) : Date :=
  ⟨y + 1, (monthAndDay (monthLengths (y + 1)) d).1 + 1, (monthAndDay (monthLengths (y + 1)) d).2 + 1⟩

/-- **The date of a day lies in the year of the day.** -/
theorem exists_ofOrdinal (n : ℤ) : ∃ (y : ℤ) (d : ℕ),
    ofOrdinal n = ofYearDay y d ∧ daysBefore y + d = n ∧ d < yearLength (y + 1) := by
  -- centuries, cycles of four years and years behind the last cycle of 400 years
  set r := (n % 146097).toNat with hr
  set c := min 3 (r / 36524) with hc
  set f := (r - c * 36524) / 1461 with hf
  set k := min 3 ((r - c * 36524) % 1461 / 365) with hk
  set d := (r - c * 36524) % 1461 - k * 365 with hd
  have hcycles : ((100 * c + 4 * f + k : ℕ) : ℤ) = 100 * (c : ℤ) + 4 * f + k := by push_cast; rfl
  refine ⟨400 * (n / 146097) + (100 * c + 4 * f + k : ℕ), d, rfl, ?_, ?_⟩
  · rw [hcycles, daysBefore_cycles (by omega) (by omega) (by omega)]
    omega
  · have hleap := @isLeap_iff (400 * (n / 146097) + (100 * c + 4 * f + k : ℕ) + 1)
    unfold yearLength
    split_ifs with h
    · omega
    · have hnot := mt hleap.2 h
      omega

theorem ordinal_ofYearDay {y : ℤ} {d : ℕ} (h : d < yearLength (y + 1)) :
    (ofYearDay y d).ordinal = daysBefore y + d := by
  rw [← sum_monthLengths] at h
  have hday := (monthAndDay_spec h).1
  simp only [ordinal, ofYearDay, add_sub_cancel_right, Nat.add_sub_cancel, ← List.sum_eq_foldl, hday]

theorem valid_ofYearDay {y : ℤ} {d : ℕ} (h : d < yearLength (y + 1)) :
    (ofYearDay y d).valid = true := by
  rw [← sum_monthLengths] at h
  obtain ⟨-, len, hlen, hday⟩ := monthAndDay_spec h
  simp only [valid, ofYearDay, Nat.add_sub_cancel, hlen]
  simp
  omega

/-- **Every day has a date**, which counts back to it. -/
theorem ordinal_ofOrdinal (n : ℤ) : (ofOrdinal n).ordinal = n := by
  obtain ⟨y, d, hdate, hn, hd⟩ := exists_ofOrdinal n
  rw [hdate, ordinal_ofYearDay hd, hn]

/-- **The date of a day exists.** -/
theorem valid_ofOrdinal (n : ℤ) : (ofOrdinal n).valid = true := by
  obtain ⟨y, d, hdate, -, hd⟩ := exists_ofOrdinal n
  rw [hdate]
  exact valid_ofYearDay hd

theorem year_ofOrdinal_le_iff {n y : ℤ} : (ofOrdinal n).year ≤ y ↔ n < daysBefore y := by
  obtain ⟨x, d, hdate, hn, hd⟩ := exists_ofOrdinal n
  have hyear : (ofOrdinal n).year = x + 1 := by rw [hdate]; rfl
  have hsucc := daysBefore_succ x
  rw [hyear]
  constructor
  · intro h
    have hmono := daysBefore_mono h
    omega
  · intro h
    by_contra hlt
    have hmono := daysBefore_mono (show y ≤ x by omega)
    omega

/-- **A later day has a later date.** -/
theorem ofOrdinal_lt {m n : ℤ} (h : m < n) :
    (ofOrdinal m).year < (ofOrdinal n).year ∨ (ofOrdinal m).year = (ofOrdinal n).year ∧
      ((ofOrdinal m).month < (ofOrdinal n).month ∨
        (ofOrdinal m).month = (ofOrdinal n).month ∧ (ofOrdinal m).day < (ofOrdinal n).day) := by
  have hle : (ofOrdinal m).year ≤ (ofOrdinal n).year :=
    year_ofOrdinal_le_iff.2 (h.trans (year_ofOrdinal_le_iff.1 le_rfl))
  rcases hle.lt_or_eq with hlt | heq
  · exact Or.inl hlt
  · refine Or.inr ⟨heq, ?_⟩
    obtain ⟨x, d, hx, hm, hd⟩ := exists_ofOrdinal m
    obtain ⟨y, e, hy, hn, he⟩ := exists_ofOrdinal n
    rw [hx, hy] at heq ⊢
    obtain rfl : x = y := by simpa [ofYearDay] using heq
    have hlater := monthAndDay_lt (show d < e by omega) (sum_monthLengths (x + 1) ▸ he)
    simp only [ofYearDay]
    omega

end Date

end MetricDocs
