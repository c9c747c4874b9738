/-
  Reading numbers back.

  * `Ended rest`: what follows cannot belong to a number;
  * `wholeRun_append`, `fraction_append` and `exponent_append`: the parts of a number are read up
    to the next part;
  * `number?_int`: an integer reads back from its digits;
  * `Pointed text v`: digits around a point denote `v`, and so does a number that is written without
    an exponent (`pointed_positional`);
  * `number?_float`: a finite double reads back from its text.
-/
import MetricDocs.Proofs.Decimal.ReadBack
import MetricDocs.Json.Encode
import MetricDocs.Json.Decode

namespace MetricDocs.Json

/-- What follows cannot belong to a number. -/
def Ended (rest : List Char) : Prop :=
  ∀ c ∈ rest.head?, c.isDigit = false ∧ c ≠ '.' ∧ c ≠ 'e' ∧ c ≠ 'E'

theorem ended_nil : Ended [] := by simp [Ended]

/-! ## The parts of a number -/

section
variable {ds rest : List Char}

theorem digitRun_append (hds : ∀ c ∈ ds, c.isDigit = true)
    (hrest : ∀ c ∈ rest.head?, c.isDigit = false) : digitRun (ds ++ rest) = (ds, rest) := by
  have hnil : rest.takeWhile Char.isDigit = [] ∧ rest.dropWhile Char.isDigit = rest := by
    cases rest with
    | nil => exact ⟨rfl, rfl⟩
    | cons c rest =>
      have hc : ¬ c.isDigit = true := by simp [hrest c rfl]
      exact ⟨List.takeWhile_cons_of_neg hc, List.dropWhile_cons_of_neg hc⟩
  rw [digitRun, List.takeWhile_append_of_pos hds, List.dropWhile_append_of_pos hds, hnil.1, hnil.2,
    List.append_nil]

theorem wholeRun_append (hds : ∀ c ∈ ds, c.isDigit = true) (hne : ds ≠ [])
    (hzero : ∀ t, ds = '0' :: t → t = []) (hrest : ∀ c ∈ rest.head?, c.isDigit = false) :
    wholeRun (ds ++ rest) = (ds, rest) := by
  obtain ⟨d, t, rfl⟩ := List.exists_cons_of_ne_nil hne
  by_cases hd : d = '0'
  · subst hd
    rw [hzero t rfl]
    rfl
  · rw [← digitRun_append hds hrest, List.cons_append, wholeRun]
    rintro r h
    exact hd (List.cons.inj h).1

theorem fraction_append (hds : ∀ c ∈ ds, c.isDigit = true) (hne : ds ≠ [])
    (hrest : ∀ c ∈ rest.head?, c.isDigit = false) :
    fraction ('.' :: (ds ++ rest)) = (ds, rest) := by
  obtain ⟨d, t, rfl⟩ := List.exists_cons_of_ne_nil hne
  rw [fraction, digitRun_append hds hrest]

theorem fraction_of_ended (h : ∀ c ∈ rest.head?, c ≠ '.') : fraction rest = ([], rest) := by
  cases rest with
  | nil => rfl
  | cons c rest =>
    rw [fraction]
    rintro r heq
    exact h c rfl (List.cons.inj heq).1

theorem exponent_of_ended (h : Ended rest) : exponent rest = (none, rest) := by
  cases rest with
  | nil => rfl
  | cons c rest =>
    obtain ⟨-, -, he, hE⟩ := h c rfl
    unfold exponent
    exact if_neg (by simp [he, hE])

theorem exponent_append (h : Ended rest) (e : ℤ) :
    exponent ('e' :: (Decimal.exponentText e ++ rest)) = (some e, rest) := by
  have hrun : digitRun (Decimal.padded 2 e.natAbs ++ rest) = (Decimal.padded 2 e.natAbs, rest) :=
    digitRun_append (fun _ => Decimal.isDigit_of_mem_padded) fun c hc => (h c hc).1
  have hvalue : Decimal.ofDigits (Decimal.padded 2 e.natAbs) = e.natAbs := Decimal.ofDigits_padded
  rcases hds : Decimal.padded 2 e.natAbs with _ | ⟨d, ds⟩
  · exact absurd hds Decimal.padded_ne_nil
  · rw [hds] at hrun hvalue
    rcases lt_or_ge e 0 with he | he
    · rw [Decimal.exponentText, if_pos he, hds]
      simp only [exponent, List.cons_append, true_or, ↓reduceIte] at hrun ⊢
      rw [hrun]
      simp only [hvalue]
      congr 2
      omega
    · rw [Decimal.exponentText, if_neg (not_lt.2 he), hds]
      simp only [exponent, List.cons_append, true_or, ↓reduceIte] at hrun ⊢
      rw [hrun]
      simp only [hvalue]
      congr 2
      omega

end

/-! ## Whole numbers -/

section
variable {negative : Bool} {rest : List Char}

theorem wholeRun_natDigits (n : ℕ) (hrest : ∀ c ∈ rest.head?, c.isDigit = false) :
    wholeRun (Decimal.natDigits n ++ rest) = (Decimal.natDigits n, rest) :=
  wholeRun_append (fun _ => Decimal.isDigit_of_mem_natDigits) (Decimal.natDigits_ne_nil n)
    (fun _ h => (Decimal.natDigits_eq_cons_zero h).2) hrest

theorem magnitude?_nat (n : ℕ) (h : Ended rest) :
    magnitude? negative (Decimal.natDigits n ++ rest) =
      some (.int (if negative then -n else n), rest) := by
  have hne : (Decimal.natDigits n).isEmpty = false := by simp [Decimal.natDigits_ne_nil]
  simp only [magnitude?, wholeRun_natDigits n fun c hc => (h c hc).1,
    fraction_of_ended fun c hc => (h c hc).2.1, exponent_of_ended h, hne, List.isEmpty_nil,
    Option.isNone_none, Bool.and_self, Bool.false_eq_true, ↓reduceIte, Decimal.ofDigits_natDigits]

theorem number?_of_magnitude? {cs : List Char} {r : Value × List Char}
    (h : magnitude? false cs = some r) : number? cs = some r := by
  rcases cs with _ | ⟨c, cs⟩
  · exact h
  · by_cases hc : c = '-'
    · subst hc
      simp [magnitude?, wholeRun, digitRun] at h
    · rw [number?, h]
      rintro r heq
      exact hc (List.cons.inj heq).1

theorem number?_eq_none {c : Char} (hc : c.isDigit = false) (hsign : c ≠ '-') (cs : List Char) :
    number? (c :: cs) = none := by
  have hrun : wholeRun (c :: cs) = ([], c :: cs) := by
    rw [wholeRun]
    · simp [digitRun, hc]
    · rintro r heq
      rw [(List.cons.inj heq).1] at hc
      cases hc
  rw [number?]
  · simp [magnitude?, hrun]
  · rintro r heq
    exact hsign (List.cons.inj heq).1

/-- **An integer reads back from its digits.** -/
theorem number?_int (n : ℤ) (h : Ended rest) :
    number? (Decimal.intDigits n ++ rest) = some (.int n, rest) := by
  cases n with
  | ofNat n =>
    exact number?_of_magnitude? (magnitude?_nat n h)
  | negSucc n =>
    rw [Decimal.intDigits, List.cons_append, number?, magnitude?_nat _ h]
    rfl

/-! ## Doubles -/

theorem magnitude?_fraction {whole part tail : List Char} {power : Option ℤ}
    (hwhole : ∀ c ∈ whole, c.isDigit = true) (hne : whole ≠ [])
    (hzero : ∀ t, whole = '0' :: t → t = []) (hpart : ∀ c ∈ part, c.isDigit = true)
    (hpne : part ≠ []) (htail : ∀ c ∈ tail.head?, c.isDigit = false)
    (hpower : exponent tail = (power, rest)) :
    magnitude? negative (whole ++ '.' :: (part ++ tail)) =
      some (.float (Decimal.scaled negative (Decimal.ofDigits (whole ++ part))
        (power.getD 0 - part.length)), rest) := by
  have hrun : wholeRun (whole ++ '.' :: (part ++ tail)) = (whole, '.' :: (part ++ tail)) :=
    wholeRun_append hwhole hne hzero (by simp)
  simp [magnitude?, hrun, fraction_append hpart hpne htail, hpower, hne, hpne]

theorem magnitude?_power {whole : List Char} (hwhole : ∀ c ∈ whole, c.isDigit = true)
    (hne : whole ≠ []) (hzero : ∀ t, whole = '0' :: t → t = []) (h : Ended rest) (e : ℤ) :
    magnitude? negative (whole ++ 'e' :: (Decimal.exponentText e ++ rest)) =
      some (.float (Decimal.scaled negative (Decimal.ofDigits whole) e), rest) := by
  have hrun : wholeRun (whole ++ 'e' :: (Decimal.exponentText e ++ rest)) =
      (whole, 'e' :: (Decimal.exponentText e ++ rest)) :=
    wholeRun_append hwhole hne hzero (by simp)
  have hfraction : fraction ('e' :: (Decimal.exponentText e ++ rest)) =
      ([], 'e' :: (Decimal.exponentText e ++ rest)) := fraction_of_ended (by simp)
  simp [magnitude?, hrun, hfraction, exponent_append h, hne]

end

/-! ## Digits around a point -/

/-- Digits on both sides of a point, without needless zeros in front, that denote a number. -/
def Pointed (text : List Char) (v : ℚ) : Prop :=
  ∃ whole part, text = whole ++ '.' :: part ∧ (∀ c ∈ whole, c.isDigit = true) ∧ whole ≠ [] ∧
    (∀ t, whole = '0' :: t → t = []) ∧ (∀ c ∈ part, c.isDigit = true) ∧ part ≠ [] ∧
    (Decimal.ofDigits (whole ++ part) : ℚ) * 10 ^ (-(part.length : ℤ)) = v

theorem Pointed.magnitude?_eq {text rest : List Char} {v : ℚ} {negative : Bool} {x : Float}
    (h : Pointed text v)
    (hread : ∀ (d : ℕ) (i : ℤ), (d : ℚ) * 10 ^ i = v → Decimal.scaled negative d i = x)
    (hrest : Ended rest) : magnitude? negative (text ++ rest) = some (.float x, rest) := by
  obtain ⟨whole, part, rfl, hwhole, hne, hzero, hpart, hpne, hv⟩ := h
  rw [List.append_assoc, List.cons_append, magnitude?_fraction hwhole hne hzero hpart hpne
    (fun c hc => (hrest c hc).1) (exponent_of_ended hrest), Option.getD_none, zero_sub,
    hread _ _ hv]

theorem pointed_zero : Pointed "0.0".toList 0 :=
  ⟨['0'], ['0'], rfl, by simp, by simp, by simp, by simp, by simp, by
    have hzero : Decimal.ofDigits (['0'] ++ ['0']) = 0 := rfl
    rw [hzero, Nat.cast_zero, zero_mul]⟩

section
variable {n : ℕ}

private theorem ne_cons_zero (hn : 0 < n) (t : List Char) : Decimal.natDigits n ≠ '0' :: t :=
  fun h => hn.ne' (Decimal.natDigits_eq_cons_zero h).1

private theorem isDigit_natDigits : ∀ c ∈ Decimal.natDigits n, c.isDigit = true := fun _ =>
  Decimal.isDigit_of_mem_natDigits

private theorem isDigit_zeros (k : ℕ) : ∀ c ∈ List.replicate k '0', c.isDigit = true := by
  intro c hc
  rw [List.eq_of_mem_replicate hc]
  rfl

/-- A whole number: zeros up to the point, and one behind it. -/
theorem pointed_whole (hn : 0 < n) (k : ℕ) :
    Pointed (Decimal.natDigits n ++ List.replicate k '0' ++ ['.', '0']) (n * 10 ^ (k : ℤ)) := by
  refine ⟨Decimal.natDigits n ++ List.replicate k '0', ['0'], rfl, ?_,
    by simp [Decimal.natDigits_ne_nil], fun t ht => ?_, by simp, by simp, ?_⟩
  · exact List.forall_mem_append.2 ⟨isDigit_natDigits, isDigit_zeros k⟩
  · rcases hds : Decimal.natDigits n with _ | ⟨d, ds⟩
    · exact absurd hds (Decimal.natDigits_ne_nil n)
    · rw [hds, List.cons_append] at ht
      exact absurd (by rw [hds, (List.cons.inj ht).1]) (ne_cons_zero hn ds)
  · have hzero : Decimal.ofDigits ['0'] = 0 := rfl
    rw [Decimal.ofDigits_append, Decimal.ofDigits_append, Decimal.ofDigits_natDigits,
      Decimal.ofDigits_replicate_zero, hzero]
    simp

/-- A number with fewer places than digits: the point stands among the digits. -/
theorem pointed_within (hn : 0 < n) {k : ℕ} (hk : 0 < k)
    (hlt : k < (Decimal.natDigits n).length) :
    Pointed ((Decimal.natDigits n).take ((Decimal.natDigits n).length - k) ++
      '.' :: (Decimal.natDigits n).drop ((Decimal.natDigits n).length - k))
      (n * 10 ^ (-(k : ℤ))) := by
  have hsplit := List.take_append_drop ((Decimal.natDigits n).length - k) (Decimal.natDigits n)
  refine ⟨_, _, rfl, fun c hc => isDigit_natDigits c (List.mem_of_mem_take hc), ?_,
    fun t ht => absurd (by rw [← hsplit, ht, List.cons_append]) (ne_cons_zero hn _),
    fun c hc => isDigit_natDigits c (List.mem_of_mem_drop hc), ?_, ?_⟩
  · simp [Decimal.natDigits_ne_nil]
    omega
  · simp
    omega
  · rw [hsplit, Decimal.ofDigits_natDigits, List.length_drop, Nat.sub_sub_self hlt.le]

/-- A number with as many places as digits, or more: zeros stand between the point and the
    digits. -/
theorem pointed_small {k : ℕ} (hle : (Decimal.natDigits n).length ≤ k) :
    Pointed (['0', '.'] ++ List.replicate (k - (Decimal.natDigits n).length) '0' ++
      Decimal.natDigits n) (n * 10 ^ (-(k : ℤ))) := by
  refine ⟨['0'], List.replicate (k - (Decimal.natDigits n).length) '0' ++ Decimal.natDigits n,
    by simp, by simp, by simp, by simp, ?_, by simp [Decimal.natDigits_ne_nil], ?_⟩
  · exact List.forall_mem_append.2 ⟨isDigit_zeros _, isDigit_natDigits⟩
  · have hlength : (List.replicate (k - (Decimal.natDigits n).length) '0' ++
        Decimal.natDigits n).length = k := by
      rw [List.length_append, List.length_replicate]
      omega
    rw [hlength, ← List.append_assoc, Decimal.ofDigits_append, Decimal.ofDigits_natDigits,
      List.singleton_append, ← List.replicate_succ, Decimal.ofDigits_replicate_zero, zero_mul,
      zero_add]

/-- **A number written without an exponent** denotes what it should. -/
theorem pointed_positional (hn : 0 < n) (e : ℤ) :
    Pointed (Decimal.positional (Decimal.natDigits n) e) (n * 10 ^ e) := by
  rw [Decimal.positional]
  split_ifs with he
  · obtain ⟨k, rfl⟩ := Int.eq_ofNat_of_zero_le he
    exact pointed_whole hn k
  · obtain ⟨k, rfl⟩ : ∃ k : ℕ, e = -(k : ℤ) := ⟨(-e).toNat, by omega⟩
    simp only [neg_neg, Int.toNat_natCast]
    split_ifs with hk
    · exact pointed_within hn (by omega) hk
    · exact pointed_small (by omega)

end

section
variable {x : Float} {rest : List Char}

theorem magnitude?_scientific {n : ℕ} (e : ℤ)
    (hread : ∀ (d : ℕ) (i : ℤ), (d : ℚ) * 10 ^ i = n * 10 ^ e →
      Decimal.scaled (Decimal.isNegative x) d i = x) (h : Ended rest) :
    magnitude? (Decimal.isNegative x) (Decimal.scientific (Decimal.natDigits n)
      (e + (Decimal.natDigits n).length - 1) ++ rest) = some (.float x, rest) := by
  have hdigits : ∀ c ∈ Decimal.natDigits n, c.isDigit = true := fun _ =>
    Decimal.isDigit_of_mem_natDigits
  have hvalue := Decimal.ofDigits_natDigits n
  -- a single digit stands without a point
  rcases hds : Decimal.natDigits n with _ | ⟨d, _ | ⟨d', ds⟩⟩
  · exact absurd hds (Decimal.natDigits_ne_nil n)
  · rw [hds] at hdigits hvalue
    have hmagnitude := @magnitude?_power (Decimal.isNegative x) rest [d] hdigits (by simp)
      (by simp) h e
    rw [hvalue, hread n e rfl] at hmagnitude
    simpa [Decimal.scientific] using hmagnitude
  · rw [hds] at hdigits hvalue
    have hlength : e + ((d :: d' :: ds).length : ℤ) - 1 = e + (d' :: ds).length := by
      simp only [List.length_cons]
      omega
    rw [hlength]
    have hmagnitude := @magnitude?_fraction (Decimal.isNegative x) rest [d] (d' :: ds)
      ('e' :: (Decimal.exponentText (e + (d' :: ds).length) ++ rest)) _
      (fun c hc => hdigits c (List.mem_cons.2 (Or.inl (List.mem_singleton.1 hc)))) (by simp)
      (by simp) (fun c hc => hdigits c (List.mem_cons_of_mem _ hc)) (by simp) (by simp)
      (exponent_append h _)
    rw [List.singleton_append, List.singleton_append, hvalue, Option.getD_some,
      add_sub_cancel_right, hread n e rfl]
      at hmagnitude
    simpa [Decimal.scientific] using hmagnitude

theorem number?_signed {negative : Bool} {text : List Char} {r : Value × List Char}
    (h : magnitude? negative text = some r) :
    number? ((if negative then ['-'] else []) ++ text) = some r := by
  cases negative with
  | true => exact h
  | false => exact number?_of_magnitude? h

/-- **A finite double reads back from its text.** -/
theorem number?_float {cs : List Char} (hx : floatLiteral x = .ok cs) (h : Ended rest) :
    number? (cs ++ rest) = some (.float x, rest) := by
  rw [floatLiteral] at hx
  cases hm : Decimal.magnitude x with
  | nan => rw [hm] at hx; cases hx
  | infinite => rw [hm] at hx; cases hx
  | zero =>
    rw [hm] at hx
    cases hx
    rw [Decimal.Layout.render, hm]
    simp only
    rw [List.append_assoc]
    refine number?_signed ?_
    refine pointed_zero.magnitude?_eq (fun d i hd => ?_) h
    have hd : d = 0 := by
      rcases mul_eq_zero.1 hd with hd | hd
      · exact_mod_cast hd
      · exact absurd hd (zpow_ne_zero i (by norm_num))
    rw [hd, Decimal.scaled_zero hm]
  | finite b =>
    rw [hm] at hx
    cases hx
    obtain ⟨hb, -⟩ := Decimal.magnitude_eq_finite hm
    have hpos := Decimal.shortest_pos hb.pos hb.lt
    -- both layouts show the shortest decimal, and that rounds to the double
    have hread : ∀ (d : ℕ) (i : ℤ), (d : ℚ) * 10 ^ i =
        (Decimal.shortest b).digits * 10 ^ (Decimal.shortest b).exponent →
        Decimal.scaled (Decimal.isNegative x) d i = x := fun _ _ => Decimal.scaled_shortest hm
    rw [Decimal.Layout.render, hm]
    simp only
    rw [List.append_assoc]
    refine number?_signed ?_
    rw [Decimal.Layout.digits]
    split_ifs
    · exact (pointed_positional hpos _).magnitude?_eq hread h
    · exact magnitude?_scientific _ hread h

end

end MetricDocs.Json
