/-
  Reading strings back.

  * `scanEscaped_eq`: reading by code points is all there is to reading a string;
  * `scanPoints_unitEscape` and `scanPoints_escape`: a unit reads back from its four hex digits, and
    a character from its escape;
  * `scanEscaped_points` and `scanEscaped_text`: what stands in a literal reads back, halves of a
    character side by side being joined.
-/
import Mathlib
import MetricDocs.Json.Text

namespace MetricDocs

namespace Text

/-! ## Halves -/

theorem joinHalf_of_not_high {n : ℕ} (h : isHighHalf n = false) (ps : List ℕ) :
    joinHalf n ps = n :: ps := by
  cases ps <;> simp [joinHalf, h]

theorem joinHalf_pair {n m : ℕ} (hn : isHighHalf n = true) (hm : isLowHalf m = true)
    (ps : List ℕ) : joinHalf n (m :: ps) = joinedPoint n m :: ps := by
  simp [joinHalf, hn, hm]

theorem isHighHalf_iff {n : ℕ} : isHighHalf n = true ↔ 0xd800 ≤ n ∧ n < 0xdc00 := by
  simp [isHighHalf]

theorem isLowHalf_iff {n : ℕ} : isLowHalf n = true ↔ 0xdc00 ≤ n ∧ n < 0xe000 := by
  simp [isLowHalf]

theorem isSurrogate_iff {n : ℕ} : isSurrogate n = true ↔ 0xd800 ≤ n ∧ n < 0xe000 := by
  rw [isSurrogate, Bool.or_eq_true, isHighHalf_iff, isLowHalf_iff]
  omega

theorem isSurrogate_toNat (c : Char) : isSurrogate c.toNat = false := by
  rw [← Bool.not_eq_true, isSurrogate_iff]
  have hvalid : c.toNat < 0xd800 ∨ 0xdfff < c.toNat ∧ c.toNat < 0x110000 := c.valid
  omega

theorem isHighHalf_toNat (c : Char) : isHighHalf c.toNat = false :=
  (Bool.or_eq_false_iff.1 (isSurrogate_toNat c)).1

theorem Escaped.ofPoints_toNat (cs : List Char) :
    Escaped.ofPoints (cs.map Char.toNat) = .string (String.ofList cs) := by
  have hany : (cs.map Char.toNat).any isSurrogate = false := by
    simp [isSurrogate_toNat]
  have hid : (Char.ofNat ∘ Char.toNat : Char → Char) = id := by
    funext c
    simp
  rw [ofPoints, hany, List.map_map, hid, List.map_id]
  rfl

end Text

namespace Json

theorem toNat_ofNat_of_valid {n : ℕ} (h : n < 0xd800 ∨ 0xdfff < n ∧ n < 0x110000) :
    (Char.ofNat n).toNat = n := by
  rw [Char.toNat_ofNat, if_pos h]

/-! ## Steps of the reader -/

section
variable {a b c d : Char} {r : List Char} {n : ℕ}

theorem hexValue?_lt (h : hexValue? c = some n) : n < 16 := by
  have hlower : 'a' ≤ c ∧ c ≤ 'f' ↔ 0x61 ≤ c.toNat ∧ c.toNat ≤ 0x66 := Iff.rfl
  have hupper : 'A' ≤ c ∧ c ≤ 'F' ↔ 0x41 ≤ c.toNat ∧ c.toNat ≤ 0x46 := Iff.rfl
  have hdigit : c.isDigit = true ↔ 0x30 ≤ c.toNat ∧ c.toNat ≤ 0x39 := by
    rw [Char.isDigit, Bool.and_eq_true, decide_eq_true_iff, decide_eq_true_iff]
    rfl
  rw [hexValue?] at h
  split_ifs at h with h₁ h₂ h₃ <;> cases h
  · rw [hdigit] at h₁
    omega
  · rw [hlower] at h₂
    omega
  · rw [hupper] at h₃
    omega

theorem unit?_lt (h : unit? a b c d = some n) : n < 0x10000 := by
  rw [unit?] at h
  split at h
  · rename_i ha hb hc hd
    cases h
    have := hexValue?_lt ha
    have := hexValue?_lt hb
    have := hexValue?_lt hc
    have := hexValue?_lt hd
    omega
  · cases h

theorem scanPoints_unit (h : unit? a b c d = some n) :
    scanPoints ('\\' :: 'u' :: a :: b :: c :: d :: r) =
      (scanPoints r).map fun p => (Text.joinHalf n p.1, p.2) := by
  rw [scanPoints, h]

theorem scanPoints_short (h : shortEscape? c = some d) :
    scanPoints ('\\' :: c :: r) = (scanPoints r).map fun p => (d.toNat :: p.1, p.2) := by
  have hu : c ≠ 'u' := by
    rintro rfl
    cases h
  rw [scanPoints, h]
  rintro _ _ _ _ _ rfl
  exact absurd rfl hu

theorem scanPoints_plain (hquote : c ≠ '"') (hback : c ≠ '\\') (hc : 0x20 ≤ c.toNat) :
    scanPoints (c :: r) = (scanPoints r).map fun p => (c.toNat :: p.1, p.2) := by
  rw [scanPoints, if_neg (by rintro (h | h); exacts [absurd hc (not_le.2 h), hback h])]
  · exact hquote
  · rintro _ _ _ _ _ rfl
    exact absurd rfl hback
  · rintro _ _ rfl
    exact absurd rfl hback

end

/-! ## One reader for both kinds of text -/

theorem consChar_eq_some {c : Char} {r : Option (List Char × List Char)} {p : List Char × List Char}
    (h : consChar c r = some p) : ∃ q, r = some q ∧ p = (c :: q.1, q.2) := by
  obtain ⟨q, hq, rfl⟩ := Option.map_eq_some_iff.1 h
  exact ⟨q, hq, rfl⟩

theorem scanPoints_of_scan {cs : List Char} {p : List Char × List Char} (h : scan cs = some p) :
    scanPoints cs = some (p.1.map Char.toNat, p.2) := by
  fun_induction scan generalizing p with
  | case1 | case3 | case4 | case6 | case7 | case9 | case10 | case12 | case14 => cases h
  | case2 r =>
    cases h
    rfl
  | case5 a b c d e f g h' r n hn hhigh m hm hlow ih =>
    -- the two halves of one character
    obtain ⟨q, hq, rfl⟩ := consChar_eq_some h
    have hm' : Text.isHighHalf m = false := by
      rw [← Bool.not_eq_true, Text.isHighHalf_iff]
      omega
    rw [scanPoints_unit hn, scanPoints_unit hm, ih hq, Option.map_some, Option.map_some,
      Text.joinHalf_of_not_high hm',
      Text.joinHalf_pair (Text.isHighHalf_iff.2 hhigh) (Text.isLowHalf_iff.2 hlow), List.map_cons,
      toNat_ofNat_of_valid (by omega)]
    rfl
  | case8 a b c d e f g h' r n hn hhigh hlow ih =>
    obtain ⟨q, hq, rfl⟩ := consChar_eq_some h
    have hlt := unit?_lt hn
    have hn' : Text.isHighHalf n = false := by
      rw [← Bool.not_eq_true, Text.isHighHalf_iff]
      exact hhigh
    rw [scanPoints_unit hn, ih hq, Option.map_some, Text.joinHalf_of_not_high hn', List.map_cons,
      toNat_ofNat_of_valid (by omega)]
  | case11 a b c d r _ n hn hsurrogate ih =>
    obtain ⟨q, hq, rfl⟩ := consChar_eq_some h
    have hlt := unit?_lt hn
    have hn' : Text.isHighHalf n = false := by
      rw [← Bool.not_eq_true, Text.isHighHalf_iff]
      omega
    rw [scanPoints_unit hn, ih hq, Option.map_some, Text.joinHalf_of_not_high hn', List.map_cons,
      toNat_ofNat_of_valid (by omega)]
  | case13 c r _ _ c' hc ih =>
    obtain ⟨q, hq, rfl⟩ := consChar_eq_some h
    rw [scanPoints_short hc, ih hq]
    rfl
  | case15 c r hquote _ _ _ hc ih =>
    obtain ⟨q, hq, rfl⟩ := consChar_eq_some h
    rw [not_or, not_lt] at hc
    rw [scanPoints_plain hquote hc.2 hc.1, ih hq]
    rfl

/-- **A string is read by code points.** -/
theorem scanEscaped_eq (cs : List Char) :
    scanEscaped cs = (scanPoints cs).map fun p => (.ofPoints p.1, p.2) := by
  rw [scanEscaped]
  cases h : scan cs with
  | none => rfl
  | some p => rw [scanPoints_of_scan h, Option.map_some, Text.Escaped.ofPoints_toNat]

/-! ## What was written -/

theorem hexValue?_digitChar : ∀ d < 16, hexValue? (Nat.digitChar d) = some d := by decide

theorem scanPoints_unitEscape {n : ℕ} (h : n < 0x10000) (r : List Char) :
    scanPoints (unitEscape n ++ r) = (scanPoints r).map fun p => (Text.joinHalf n p.1, p.2) := by
  refine scanPoints_unit ?_
  simp only [unit?, hexValue?_digitChar _ (Nat.mod_lt _ (by decide : 0 < 16))]
  congr 1
  omega

theorem scanPoints_codeEscape (c : Char) (r : List Char) :
    scanPoints (codeEscape c.toNat ++ r) =
      (scanPoints r).map fun p => (c.toNat :: p.1, p.2) := by
  have hvalid : c.toNat < 0xd800 ∨ 0xdfff < c.toNat ∧ c.toNat < 0x110000 := c.valid
  rw [codeEscape]
  split_ifs with h
  · rw [scanPoints_unitEscape h]
    simp only [Text.joinHalf_of_not_high (Text.isHighHalf_toNat c)]
  · have hhigh : Text.isHighHalf (0xd800 + (c.toNat - 0x10000) / 0x400) = true := by
      rw [Text.isHighHalf_iff]
      omega
    have hlow : Text.isLowHalf (0xdc00 + (c.toNat - 0x10000) % 0x400) = true := by
      rw [Text.isLowHalf_iff]
      omega
    have hnot : Text.isHighHalf (0xdc00 + (c.toNat - 0x10000) % 0x400) = false := by
      rw [← Bool.not_eq_true, Text.isHighHalf_iff]
      omega
    have hjoined : Text.joinedPoint (0xd800 + (c.toNat - 0x10000) / 0x400)
        (0xdc00 + (c.toNat - 0x10000) % 0x400) = c.toNat := by
      generalize c.toNat = n at *
      unfold Text.joinedPoint
      omega
    rw [List.append_assoc, scanPoints_unitEscape (by omega), scanPoints_unitEscape (by omega)]
    cases scanPoints r with
    | none => rfl
    | some p =>
      rw [Option.map_some, Option.map_some, Option.map_some, Text.joinHalf_of_not_high hnot,
        Text.joinHalf_pair hhigh hlow, hjoined]

theorem scanPoints_escape (c : Char) (r : List Char) :
    scanPoints (escape c ++ r) = (scanPoints r).map fun p => (c.toNat :: p.1, p.2) := by
  rw [escape]
  split_ifs with h₁ h₂ h₃ h₄ h₅ h₆ h₇ h₈
  · rw [h₁]; exact scanPoints_short rfl
  · rw [h₂]; exact scanPoints_short rfl
  · rw [h₃]; exact scanPoints_short rfl
  · rw [h₄]; exact scanPoints_short rfl
  · rw [h₅]; exact scanPoints_short rfl
  · rw [h₆]; exact scanPoints_short rfl
  · rw [h₇]; exact scanPoints_short rfl
  · exact scanPoints_plain h₁ h₂ h₈.1
  · exact scanPoints_codeEscape c r

/-- The code point that an escape spells. -/
def spelled (n : ℕ) : ℕ := if Text.isSurrogate n then n else (Char.ofNat n).toNat

theorem scanPoints_escapePoint (n : ℕ) (r : List Char) :
    scanPoints (escapePoint n ++ r) =
      (scanPoints r).map fun p => (Text.joinHalf (spelled n) p.1, p.2) := by
  rw [escapePoint, spelled]
  split_ifs with h
  · have := Text.isSurrogate_iff.1 h
    exact scanPoints_unitEscape (by omega) r
  · rw [scanPoints_escape]
    simp only [Text.joinHalf_of_not_high (Text.isHighHalf_toNat _)]

/-- The text that is read back where code points were written. -/
def respelled (ps : List ℕ) : Text.Escaped := .ofPoints ((ps.map spelled).foldr Text.joinHalf [])

/-- **Code points read back**, the halves of a character side by side being joined. -/
theorem scanEscaped_points (ps : List ℕ) (r : List Char) :
    scanEscaped (ps.flatMap escapePoint ++ '"' :: r) = some (respelled ps, r) := by
  have hpoints : scanPoints (ps.flatMap escapePoint ++ '"' :: r) =
      some ((ps.map spelled).foldr Text.joinHalf [], r) := by
    induction ps with
    | nil => rfl
    | cons n ps ih =>
      rw [List.flatMap_cons, List.append_assoc, scanPoints_escapePoint, ih]
      rfl
  rw [scanEscaped_eq, hpoints]
  rfl

/-- **A string reads back from its literal.** -/
theorem scanEscaped_text (s : String) (r : List Char) :
    scanEscaped (s.toList.flatMap escape ++ '"' :: r) = some (.string s, r) := by
  have hpoints : ∀ cs : List Char, scanPoints (cs.flatMap escape ++ '"' :: r) =
      some (cs.map Char.toNat, r) := by
    intro cs
    induction cs with
    | nil => rfl
    | cons c cs ih =>
      rw [List.flatMap_cons, List.append_assoc, scanPoints_escape, ih]
      rfl
  rw [scanEscaped_eq, hpoints, Option.map_some, Text.Escaped.ofPoints_toNat, String.ofList_toList]

end Json

end MetricDocs
