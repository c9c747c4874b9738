/-
  The timestamps of documents.

  * `fixedFields layout ns`: numbers in fields of fixed width, each with a mark behind it, and
    `fixedFields_lt`: such texts are in the order of the numbers, the first that differs deciding;
  * `DateTime.Proper`: a date and a time of day that exist, in a year of four digits, and
    `DateTime.numbers`: the numbers of its text;
  * `seconds_ofSeconds` and `proper_ofSeconds`: every second of these years has a date and a time of
    day, which count back to it, and `numbers_lt`: a later second has later ones;
  * `toList_timestamp`: its timestamp has the fields of `timestampLayout`;
  * `readTimestamp?_timestamp`: reading a timestamp gives the second;
  * `timestamp_faithful`: so timestamps name instants and are ordered as they are.
-/
import MetricDocs.Proofs.Calendar.Dates
import MetricDocs.Proofs.Decimal.Digits

namespace MetricDocs

/-! ## Fields of fixed width -/

/-- Numbers, each padded to the width of its field, and the mark of the field behind it. -/
def fixedFields (layout : List (ℕ × Char)) (ns : List ℕ) : List Char :=
  (layout.zip ns).flatMap fun f => Decimal.padded f.1.1 f.2 ++ [f.1.2]

/-- Every number has a field, and fits it. -/
def FitsFields (layout : List (ℕ × Char)) (ns : List ℕ) : Prop :=
  List.Forall₂ (fun f n => 0 < f.1 ∧ n < 10 ^ f.1) layout ns

section
variable {layout : List (ℕ × Char)} {ms ns : List ℕ}

theorem fixedFields_cons (f : ℕ × Char) (n : ℕ) (layout : List (ℕ × Char)) (ns : List ℕ) :
    fixedFields (f :: layout) (n :: ns) = Decimal.padded f.1 n ++ f.2 :: fixedFields layout ns := by
  simp [fixedFields]

theorem length_fixedFields (h : FitsFields layout ns) :
    (fixedFields layout ns).length = (layout.map fun f => f.1 + 1).sum := by
  induction h with
  | nil => rfl
  | cons hn _ ih =>
    simp [fixedFields_cons, Decimal.length_padded hn.2 hn.1, ih]
    omega

theorem append_lt_append {as bs : List Char} (hlength : as.length = bs.length) (h : as < bs)
    (cs ds : List Char) : as ++ cs < bs ++ ds := by
  induction as generalizing bs with
  | nil =>
    rw [List.eq_nil_of_length_eq_zero hlength.symm] at h
    exact absurd h (lt_irrefl _)
  | cons a as ih =>
    cases bs with
    | nil => cases hlength
    | cons b bs =>
      rw [List.cons_lt_cons_iff] at h
      rw [List.cons_append, List.cons_append, List.cons_lt_cons_iff]
      rcases h with h | ⟨rfl, h⟩
      · exact Or.inl h
      · exact Or.inr ⟨rfl, ih (Nat.succ.inj hlength) h⟩

/-- **Texts of fixed fields are in the order of their numbers.** -/
theorem fixedFields_lt (hms : FitsFields layout ms) (hns : FitsFields layout ns) (h : ms < ns) :
    fixedFields layout ms < fixedFields layout ns := by
  induction hms generalizing ns with
  | nil =>
    cases hns
    exact absurd h (lt_irrefl _)
  | cons hm _ ih =>
    cases hns with
    | cons hn hns =>
      rw [fixedFields_cons, fixedFields_cons]
      rcases List.cons_lt_cons_iff.1 h with hlt | ⟨rfl, hlt⟩
      · refine append_lt_append ?_ (Decimal.padded_lt_padded hm.2 hn.2 hlt) _ _
        rw [Decimal.length_padded hm.2 hm.1, Decimal.length_padded hn.2 hn.1]
      · exact List.append_left_lt (List.cons_lt_cons_iff.2 (Or.inr ⟨rfl, ih hns hlt⟩))

end

/-! ## Dates and times -/

/-- A date and a time of day that exist, in a year of four digits. -/
structure DateTime.Proper (t : DateTime) : Prop where
  date : t.date.valid = true
  year : 1000 ≤ t.date.year ∧ t.date.year ≤ 9999
  hour : t.hour < 24
  minute : t.minute < 60
  second : t.second < 60

/-- Year, month, day, hour, minute and second. -/
def DateTime.numbers (t : DateTime) : List ℕ :=
  [t.date.year.toNat, t.date.month, t.date.day, t.hour, t.minute, t.second]

/-- The fields `YYYY-MM-DDTHH:MM:SSZ`. -/
def timestampLayout : List (ℕ × Char) :=
  [(4, '-'), (2, '-'), (2, 'T'), (2, ':'), (2, ':'), (2, 'Z')]

/-- The seconds from the first of the year 1000 up to the end of the year 9999. -/
def InFourDigitYears (s : ℤ) : Prop :=
  (⟨⟨1000, 1, 1⟩, 0, 0, 0⟩ : DateTime).seconds ≤ s ∧
    s < (⟨⟨10000, 1, 1⟩, 0, 0, 0⟩ : DateTime).seconds

instance (s : ℤ) : Decidable (InFourDigitYears s) := inferInstanceAs (Decidable (_ ∧ _))

theorem Date.valid_bounds {d : Date} (h : d.valid = true) : d.month ≤ 12 ∧ d.day ≤ 31 := by
  rw [Date.valid] at h
  cases hlen : (monthLengths d.year)[d.month - 1]? with
  | none => rw [hlen] at h; cases h
  | some len =>
    simp only [hlen, Bool.and_eq_true, decide_eq_true_eq] at h
    obtain ⟨hmonth, -⟩ := List.getElem?_eq_some_iff.1 hlen
    have hlens : ∀ len ∈ monthLengths d.year, len ≤ 31 := by
      unfold monthLengths
      split_ifs <;> decide
    have hle := hlens len (List.mem_of_getElem? hlen)
    have hcount : (monthLengths d.year).length = 12 := rfl
    omega

namespace DateTime

/-- **The date and time of a second count back to it.** -/
theorem seconds_ofSeconds (s : ℤ) : (ofSeconds s).seconds = s := by
  simp only [seconds, Date.dayNumber, ofSeconds, Date.ordinal_ofOrdinal]
  omega

theorem proper_ofSeconds {s : ℤ} (h : InFourDigitYears s) : (ofSeconds s).Proper := by
  have hstart : (⟨⟨1000, 1, 1⟩, 0, 0, 0⟩ : DateTime).seconds = -30610224000 := by decide
  have hend : (⟨⟨10000, 1, 1⟩, 0, 0, 0⟩ : DateTime).seconds = 253402300800 := by decide
  have hyears : daysBefore 999 = 364877 ∧ daysBefore 9999 = 3652059 := by decide
  obtain ⟨hfirst, hlast⟩ := h
  rw [hstart] at hfirst
  rw [hend] at hlast
  refine ⟨Date.valid_ofOrdinal _, ⟨?_, ?_⟩, ?_, ?_, ?_⟩
  · by_contra hearlier
    have hyear : (Date.ofOrdinal (s / 86400 + epochOrdinal)).year ≤ 999 := by
      simp only [ofSeconds] at hearlier
      omega
    have hday := Date.year_ofOrdinal_le_iff.1 hyear
    rw [hyears.1, epochOrdinal] at hday
    omega
  · refine Date.year_ofOrdinal_le_iff.2 ?_
    rw [hyears.2, epochOrdinal]
    omega
  all_goals
    simp only [ofSeconds]
    omega

theorem clock_lt {r r' : ℕ} (h : r < r') : r / 3600 < r' / 3600 ∨ r / 3600 = r' / 3600 ∧
    (r / 60 % 60 < r' / 60 % 60 ∨ r / 60 % 60 = r' / 60 % 60 ∧ r % 60 < r' % 60) := by
  omega

/-- **A later second has a later date and time.** -/
theorem numbers_lt {s s' : ℤ} (hs : InFourDigitYears s) (h : s < s') :
    (ofSeconds s).numbers < (ofSeconds s').numbers := by
  have hyear := (proper_ofSeconds hs).year.1
  simp only [numbers, List.cons_lt_cons_iff, List.lt_irrefl, and_false, or_false]
  have hle : s / 86400 ≤ s' / 86400 := by omega
  rcases hle.lt_or_eq with hday | hday
  · have hdate := Date.ofOrdinal_lt (show s / 86400 + epochOrdinal < s' / 86400 + epochOrdinal by
      omega)
    simp only [ofSeconds] at hyear ⊢
    omega
  · simp only [ofSeconds, hday, lt_irrefl, false_or, true_and]
    exact clock_lt (show (s % 86400).toNat < (s' % 86400).toNat by omega)

theorem Proper.fitsFields {t : DateTime} (h : t.Proper) : FitsFields timestampLayout t.numbers := by
  have hyear := h.year
  have hdate := Date.valid_bounds h.date
  have hhour := h.hour
  have hminute := h.minute
  have hsecond := h.second
  refine .cons ⟨by decide, ?_⟩ (.cons ⟨by decide, ?_⟩ (.cons ⟨by decide, ?_⟩
    (.cons ⟨by decide, ?_⟩ (.cons ⟨by decide, ?_⟩ (.cons ⟨by decide, ?_⟩ .nil)))))
  all_goals
    simp only
    omega

end DateTime

/-! ## Timestamps -/

section
variable {s s' : ℤ}

/-- **A timestamp has the fields of its layout.** -/
theorem toList_timestamp (h : InFourDigitYears s) :
    (timestamp s).toList = fixedFields timestampLayout (DateTime.ofSeconds s).numbers := by
  have hyear := (DateTime.proper_ofSeconds h).year
  obtain ⟨n, hn⟩ := Int.eq_ofNat_of_zero_le (show 0 ≤ (DateTime.ofSeconds s).date.year by omega)
  rw [hn] at hyear
  have hdigits : Decimal.intDigits (DateTime.ofSeconds s).date.year =
      Decimal.padded 4 (DateTime.ofSeconds s).date.year.toNat := by
    rw [hn, Int.toNat_natCast, Decimal.padded_eq_natDigits (by omega) (by decide)]
    rfl
  rw [timestamp, String.toList_ofList, Date.digits, hdigits]
  simp [timestampLayout, DateTime.numbers, fixedFields, DateTime.clockDigits]

theorem length_timestamp (h : InFourDigitYears s) : (timestamp s).toList.length = 20 := by
  rw [toList_timestamp h, length_fixedFields (DateTime.proper_ofSeconds h).fitsFields]
  rfl

/-- **Timestamps are ordered as the seconds are.** -/
theorem strictMonoOn_timestamp : StrictMonoOn timestamp {s | InFourDigitYears s} := by
  intro s hs s' hs' h
  rw [String.lt_iff_toList_lt, toList_timestamp hs, toList_timestamp hs']
  exact fixedFields_lt (DateTime.proper_ofSeconds hs).fitsFields
    (DateTime.proper_ofSeconds hs').fitsFields (DateTime.numbers_lt hs h)

/-! ## Reading -/

theorem readField?_padded {width n : ℕ} (hwidth : 0 < width) (hn : n < 10 ^ width)
    (rest : List Char) :
    readField? width (Decimal.padded width n ++ rest) = some (n, rest) := by
  have hlength := Decimal.length_padded hn hwidth
  have hdigits : (Decimal.padded width n).all Char.isDigit = true :=
    List.all_eq_true.2 fun _ => Decimal.isDigit_of_mem_padded
  have htake : (Decimal.padded width n ++ rest).take width = Decimal.padded width n := by
    rw [List.take_append_of_le_length hlength.ge, List.take_of_length_le hlength.le]
  have hdrop : (Decimal.padded width n ++ rest).drop width = rest :=
    List.drop_left' hlength
  simp only [readField?, htake, hdrop, hlength, hdigits, Decimal.ofDigits_padded, decide_true,
    Bool.and_self, ↓reduceIte]

theorem expect?_cons (c : Char) (cs : List Char) : expect? c (c :: cs) = some cs := by
  rw [expect?, if_pos rfl]

/-- **Reading a timestamp gives the second** that it was made of. -/
theorem readTimestamp?_timestamp (h : InFourDigitYears s) :
    readTimestamp? (timestamp s) = some s := by
  have hproper := DateTime.proper_ofSeconds h
  have hseconds := DateTime.seconds_ofSeconds s
  have hyear : (((DateTime.ofSeconds s).date.year.toNat : ℕ) : ℤ) =
      (DateTime.ofSeconds s).date.year := by
    have := hproper.year
    omega
  have hfits := hproper.fitsFields
  simp only [FitsFields, timestampLayout, DateTime.numbers, List.forall₂_cons] at hfits
  obtain ⟨⟨-, hy⟩, ⟨-, hm⟩, ⟨-, hd⟩, ⟨-, hhour⟩, ⟨-, hminute⟩, ⟨-, hsecond⟩, -⟩ := hfits
  rw [readTimestamp?, toList_timestamp h]
  simp only [timestampLayout, DateTime.numbers, fixedFields_cons, readField?_padded, hy, hm, hd,
    hhour, hminute, hsecond, expect?_cons, Nat.ofNat_pos, Option.bind_eq_bind, Option.bind_some,
    hyear]
  rw [if_pos]
  · exact congrArg some hseconds
  · have hfour := hproper.year
    have hpositive : 1 ≤ (DateTime.ofSeconds s).date.year.toNat := by omega
    simp [fixedFields, hproper.date, hproper.hour, hproper.minute, hproper.second, hpositive]

/-! ## The main theorem -/

theorem wholeSecond_eq_floor (seconds micros : ℤ) :
    wholeSecond seconds micros = ⌊(seconds : ℚ) + micros / 1000000⌋ := by
  rw [Int.floor_intCast_add, wholeSecond]
  congr 1
  exact_mod_cast (Rat.floor_intCast_div_natCast micros 1000000).symm

/-- **Timestamps name instants and are ordered as they are.**  For every two instants of the years
    1000 to 9999, given in seconds and microseconds, the timestamp of the first is a text of 20
    characters with the fields of `timestampLayout`, for a date and a time of day that exist; it
    reads as the whole second of the instant, microseconds dropped; and the timestamps compare as
    the whole seconds do. -/
theorem timestamp_faithful {seconds micros seconds' micros' : ℤ}
    (h : InFourDigitYears (wholeSecond seconds micros))
    (h' : InFourDigitYears (wholeSecond seconds' micros')) :
    (∃ t : DateTime, t.Proper ∧
      (timestamp (wholeSecond seconds micros)).toList = fixedFields timestampLayout t.numbers ∧
      t.seconds = wholeSecond seconds micros) ∧
    (timestamp (wholeSecond seconds micros)).length = 20 ∧
    readTimestamp? (timestamp (wholeSecond seconds micros)) =
      some ⌊(seconds : ℚ) + micros / 1000000⌋ ∧
    compare (timestamp (wholeSecond seconds micros)) (timestamp (wholeSecond seconds' micros')) =
      compare ⌊(seconds : ℚ) + micros / 1000000⌋ ⌊(seconds' : ℚ) + micros' / 1000000⌋ := by
  rw [← wholeSecond_eq_floor, ← wholeSecond_eq_floor]
  refine ⟨⟨_, DateTime.proper_ofSeconds h, toList_timestamp h, DateTime.seconds_ofSeconds _⟩, ?_,
    readTimestamp?_timestamp h, ?_⟩
  · rw [← String.length_toList, length_timestamp h]
  · rw [← cmp_eq_compare, ← cmp_eq_compare]
    exact strictMonoOn_timestamp.cmp_map_eq h h'

/-- The last microsecond before the epoch names the second before it, and comes before a leap
    day. -/
theorem beforeEpoch_faithful :
    readTimestamp? (timestamp (wholeSecond (-1) 999999)) = some (-1) ∧
      (timestamp (wholeSecond (-1) 999999)).length = 20 ∧
      compare (timestamp (wholeSecond (-1) 999999)) (timestamp (wholeSecond 951782400 0)) = .lt := by
  have hfaithful := @timestamp_faithful (-1) 999999 951782400 0 (by decide) (by decide)
  rw [← wholeSecond_eq_floor, ← wholeSecond_eq_floor] at hfaithful
  obtain ⟨-, hlength, hread, hcompare⟩ := hfaithful
  exact ⟨hread, hlength, hcompare⟩

end

end MetricDocs
