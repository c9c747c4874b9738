/-
  Which segments are indices.

  * `Numeral sign digits s`: the text is one optional sign and at least one digit, and
    `denoted sign digits` is the integer that they denote, every digit counting by the power of ten
    of its place;
  * `signedValue_eq`: the test of a segment looks at this integer;
  * `isIndex_numeral` and `isIndex_of_not_numeral`: it accepts a numeral iff the integer fits
    64 bits, if the digits are not too many to be converted, and accepts nothing else;
  * `numeral_intText`: an integer is printed as a numeral that denotes it;
  * `isIndex_settled`: so a segment is an index iff it spells an integer of 64 bits.
-/
import MetricDocs.Proofs.Path.Scanning
import MetricDocs.Proofs.Decimal.Digits

namespace MetricDocs

namespace Decimal

theorem ofDigits_eq (cs : List Char) :
    ofDigits cs = Nat.ofDigits 10 (cs.reverse.map fun c => c.toNat - '0'.toNat) := by
  induction cs using List.reverseRecOn with
  | nil => rfl
  | append_singleton cs c ih =>
    rw [List.reverse_append, List.map_append, Nat.ofDigits_append, ofDigits_append, ih]
    simp [ofDigits, Nat.ofDigitChars_cons]
    ring

end Decimal

namespace Path

/-! ## Numerals -/

/-- The text is one optional sign and digits, one at least. -/
structure Numeral (sign digits : List Char) (s : String) : Prop where
  text : s.toList = sign ++ digits
  sign : sign ∈ [[], ['+'], ['-']]
  ne_nil : digits ≠ []
  isDigit : ∀ c ∈ digits, c.isDigit = true

/-- The integer that a sign and digits denote. -/
def denoted (sign digits : List Char) : ℤ :=
  (if sign = ['-'] then -1 else 1) *
    (Nat.ofDigits 10 (digits.reverse.map fun c => c.toNat - '0'.toNat) : ℕ)

/-- The integer fits 64 bits. -/
def Fits (n : ℤ) : Prop := -2 ^ 63 ≤ n ∧ n ≤ 2 ^ 63 - 1

instance (n : ℤ) : Decidable (Fits n) := inferInstanceAs (Decidable (_ ∧ _))

theorem decide_fits (n : ℤ) :
    decide (Fits n) = (decide (-0x8000000000000000 ≤ n) && decide (n ≤ 0x7fffffffffffffff)) := by
  rw [← Bool.decide_and, decide_eq_decide, Fits]
  norm_num

section
variable {s : String} {sign digits : List Char}

theorem Numeral.unsigned_eq (h : Numeral sign digits s) : unsigned s.toList = digits := by
  have hsign := h.sign
  simp only [List.mem_cons, List.not_mem_nil, or_false] at hsign
  rw [h.text]
  rcases hsign with rfl | rfl | rfl
  · exact unsigned_of_digits h.isDigit
  · rfl
  · rfl

theorem Numeral.isMinus_eq (h : Numeral sign digits s) :
    isMinus s.toList = decide (sign = ['-']) := by
  have hsign := h.sign
  simp only [List.mem_cons, List.not_mem_nil, or_false] at hsign
  rw [h.text]
  rcases hsign with rfl | rfl | rfl
  · obtain ⟨c, cs, rfl⟩ := List.exists_cons_of_ne_nil h.ne_nil
    have hc : c ≠ '-' := by
      intro hc
      have hdigit := h.isDigit c List.mem_cons_self
      rw [hc] at hdigit
      exact absurd hdigit (by decide)
    simp [isMinus, hc]
  · rfl
  · rfl

/-- **The test of a segment looks at the integer** that the segment denotes. -/
theorem signedValue_eq (h : Numeral sign digits s) :
    signedValue s.toList = denoted sign digits := by
  rw [signedValue, h.unsigned_eq, h.isMinus_eq, denoted, Decimal.ofDigits_eq]
  by_cases hminus : sign = ['-']
  · simp [hminus]
  · simp [hminus]

theorem isEmpty_or_not_all_of_not_numeral (h : ¬ ∃ sign digits, Numeral sign digits s) :
    ((unsigned s.toList).isEmpty || !(unsigned s.toList).all Char.isDigit) = true := by
  by_contra hnot
  simp only [Bool.or_eq_true, Bool.not_eq_true', not_or, Bool.not_eq_true,
    Bool.not_eq_false] at hnot
  obtain ⟨sign, hsign, hs⟩ := exists_sign s.toList
  exact h ⟨sign, unsigned s.toList, hs, hsign, List.isEmpty_eq_false_iff.1 hnot.1,
    List.all_eq_true.1 hnot.2⟩

/-! ## The test of a segment -/

/-- **A numeral is an index iff its integer fits 64 bits**, unless it has too many digits. -/
theorem isIndex_numeral (h : Numeral sign digits s) :
    isIndex s = if digits.length ≤ Decimal.maxDigits then .ok (decide (Fits (denoted sign digits)))
      else .error (.tooManyDigits (some digits.length)) := by
  have hunsigned := h.unsigned_eq
  split_ifs with hlength
  · have hempty : digits.isEmpty = false := List.isEmpty_eq_false_iff.2 h.ne_nil
    have hall : digits.all Char.isDigit = true := List.all_eq_true.2 h.isDigit
    have hlong : ¬ digits.length > Decimal.maxDigits := by omega
    simp only [isIndex, hunsigned, hempty, hall, hlong, signedValue_eq h, Bool.not_true,
      Bool.or_self, Bool.false_eq_true, ↓reduceIte, decide_fits]
  · rw [← hunsigned] at hlength ⊢
    exact isIndex_eq_error (hunsigned ▸ h.isDigit) (not_le.1 hlength)

theorem isIndex_of_not_numeral (h : ¬ ∃ sign digits, Numeral sign digits s) :
    isIndex s = .ok false := by
  simp only [isIndex, isEmpty_or_not_all_of_not_numeral h, ↓reduceIte]

end

/-! ## Printed integers -/

theorem numeral_intText (n : ℤ) :
    Numeral (if n < 0 then ['-'] else []) (Decimal.natDigits n.natAbs) (Decimal.intText n) := by
  refine ⟨?_, ?_, Decimal.natDigits_ne_nil _, fun c hc => Decimal.isDigit_of_mem_natDigits hc⟩
  · rw [Decimal.intText, String.toList_ofList]
    cases n with
    | ofNat n => rfl
    | negSucc n => rw [if_pos (Int.negSucc_lt_zero n)]; rfl
  · split_ifs <;> simp

theorem denoted_intText (n : ℤ) :
    denoted (if n < 0 then ['-'] else []) (Decimal.natDigits n.natAbs) = n := by
  rw [denoted, ← Decimal.ofDigits_eq, Decimal.ofDigits_natDigits]
  split_ifs with hneg h h
  · omega
  · exact absurd rfl h
  · cases h
  · omega

/-! ## The main theorem -/

/-- **A segment is an index iff it spells an integer of 64 bits.**  With one optional sign and 1 to
    4300 digits it is one iff the integer that they denote fits, however many zeros stand in front;
    with more digits the test fails; and no other text is an index.  So a printed integer of at most
    4300 digits is an index iff it fits. -/
theorem isIndex_settled :
    (∀ s sign digits, Numeral sign digits s →
      (digits.length ≤ 4300 → isIndex s = .ok (decide (Fits (denoted sign digits)))) ∧
      (4300 < digits.length → ∃ e, isIndex s = .error e ∧ e.kind = .value)) ∧
    (∀ s, (¬ ∃ sign digits, Numeral sign digits s) → isIndex s = .ok false) ∧
    ∀ n : ℤ, (Decimal.natDigits n.natAbs).length ≤ 4300 →
      isIndex (Decimal.intText n) = .ok (decide (Fits n)) := by
  rw [← show Decimal.maxDigits = 4300 from rfl]
  refine ⟨fun s sign digits h => ⟨fun hlength => ?_, fun hlength => ?_⟩,
    fun s hs => isIndex_of_not_numeral hs, fun n hlength => ?_⟩
  · rw [isIndex_numeral h, if_pos hlength]
  · rw [isIndex_numeral h, if_neg (not_le.2 hlength)]
    exact ⟨_, rfl, rfl⟩
  · rw [isIndex_numeral (numeral_intText n), if_pos hlength, denoted_intText]

/-- The least integer behind zeros is an index, the one above the greatest is none, a run of zeros
    can be too long, two signs spell no integer, and the greatest integer is printed as an index. -/
theorem paddedBounds_isIndex :
    isIndex "-0009223372036854775808" = .ok true ∧ isIndex "+9223372036854775808" = .ok false ∧
      (∃ e, isIndex (String.ofList ('+' :: List.replicate 4301 '0')) = .error e ∧
        e.kind = .value) ∧
      isIndex "+-1" = .ok false ∧ isIndex (Decimal.intText (2 ^ 63 - 1)) = .ok true := by
  obtain ⟨hnumeral, hother, hprinted⟩ := isIndex_settled
  have hzeros : ∀ c ∈ List.replicate 4301 '0', c.isDigit = true := fun c hc => by
    rw [List.eq_of_mem_replicate hc]
    rfl
  refine ⟨?_, ?_, ?_, hother _ ?_, ?_⟩
  · exact (hnumeral _ ['-'] "0009223372036854775808".toList
      ⟨by decide +kernel, by decide, by decide, by simp⟩).1 (by decide)
  · exact (hnumeral _ ['+'] "9223372036854775808".toList
      ⟨by decide +kernel, by decide, by decide, by simp⟩).1 (by decide)
  · exact (hnumeral _ ['+'] (List.replicate 4301 '0') ⟨String.toList_ofList, by decide,
      List.ne_nil_of_length_pos (by rw [List.length_replicate]; decide), hzeros⟩).2
        (by rw [List.length_replicate]; decide)
  · rintro ⟨sign, digits, h⟩
    have hdigit := h.isDigit
    rw [← h.unsigned_eq] at hdigit
    exact absurd (hdigit '-' (by decide)) (by decide)
  · exact hprinted _ (by decide)

end Path

end MetricDocs
