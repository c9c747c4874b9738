/-
  The characters of a document.

  * `Printable cs`: all characters lie between the space and the tilde, so none of them is a line
    end;
  * `printable_literal` and `printable_render`: strings and doubles are written in such characters;
  * `printable_encode`: so is every document, if the separators of its style are.
-/
import MetricDocs.Proofs.Json.RoundTrip

namespace MetricDocs.Json

/-- All characters lie between the space and the tilde. -/
def Printable (cs : List Char) : Prop := ∀ c ∈ cs, 0x20 ≤ c.toNat ∧ c.toNat ≤ 0x7e

section
variable {cs ds : List Char} {c : Char}

@[simp] theorem printable_nil : Printable [] := by simp [Printable]

@[simp] theorem printable_cons_iff :
    Printable (c :: cs) ↔ (0x20 ≤ c.toNat ∧ c.toNat ≤ 0x7e) ∧ Printable cs := List.forall_mem_cons

@[simp] theorem printable_append_iff : Printable (cs ++ ds) ↔ Printable cs ∧ Printable ds :=
  List.forall_mem_append

theorem printable_flatMap {α : Type} {f : α → List Char} {as : List α}
    (h : ∀ a ∈ as, Printable (f a)) : Printable (as.flatMap f) := by
  intro c hc
  obtain ⟨a, ha, hc⟩ := List.mem_flatMap.1 hc
  exact h a ha c hc

theorem printable_intercalate {parts : List (List Char)} (hsep : Printable cs)
    (h : ∀ part ∈ parts, Printable part) : Printable (cs.intercalate parts) := by
  induction parts with
  | nil => simp
  | cons part parts ih =>
    obtain ⟨hpart, hparts⟩ := List.forall_mem_cons.1 h
    cases parts with
    | nil => rwa [List.intercalate_singleton]
    | cons part' parts =>
      rw [List.intercalate_cons_cons]
      simp [hpart, hsep, ih hparts]

/-! ## Numbers -/

theorem printable_of_isDigit (h : ∀ c ∈ cs, c.isDigit = true) : Printable cs := by
  intro c hc
  have hdigit := Char.isDigit_iff_toNat.1 (h c hc)
  have hbounds : '0'.toNat = 48 ∧ '9'.toNat = 57 := by simp
  omega

theorem printable_natDigits (n : ℕ) : Printable (Decimal.natDigits n) :=
  printable_of_isDigit fun _ => Decimal.isDigit_of_mem_natDigits

theorem printable_zeros (n : ℕ) : Printable (List.replicate n '0') := by
  intro c hc
  rw [List.eq_of_mem_replicate hc]
  simp

theorem printable_intDigits (n : ℤ) : Printable (Decimal.intDigits n) := by
  cases n with
  | ofNat n => exact printable_natDigits n
  | negSucc n =>
    rw [Decimal.intDigits, printable_cons_iff]
    exact ⟨by simp, printable_natDigits _⟩

theorem printable_exponentText (e : ℤ) : Printable (Decimal.exponentText e) := by
  rw [Decimal.exponentText, Decimal.padded]
  simp only [printable_cons_iff, printable_append_iff]
  refine ⟨?_, printable_zeros _, printable_natDigits _⟩
  split_ifs <;> simp

theorem printable_positional (h : Printable ds) (e : ℤ) : Printable (Decimal.positional ds e) := by
  rw [Decimal.positional]
  split_ifs
  · simp only [printable_append_iff]
    exact ⟨⟨h, printable_zeros _⟩, by simp⟩
  · simp only
    split_ifs
    · simp only [printable_append_iff, printable_cons_iff]
      exact ⟨fun c hc => h c (List.mem_of_mem_take hc), by simp,
        fun c hc => h c (List.mem_of_mem_drop hc)⟩
    · simp only [printable_append_iff]
      exact ⟨⟨by simp, printable_zeros _⟩, h⟩

theorem printable_scientific (h : Printable ds) (e : ℤ) : Printable (Decimal.scientific ds e) := by
  have hexponent : Printable ('e' :: Decimal.exponentText e) :=
    printable_cons_iff.2 ⟨by simp, printable_exponentText e⟩
  rw [Decimal.scientific.eq_def]
  split
  · exact printable_nil
  · exact printable_cons_iff.2 ⟨h _ List.mem_cons_self, hexponent⟩
  · obtain ⟨hd, hrest⟩ := printable_cons_iff.1 h
    simp only [List.cons_append, printable_cons_iff, printable_append_iff]
    exact ⟨hd, by simp, hrest, printable_cons_iff.1 hexponent⟩

/-- **A finite double is written in printable characters.** -/
theorem printable_render {x : Float} (h : floatLiteral x = .ok cs) : Printable cs := by
  have hsign : Printable (if Decimal.isNegative x then ['-'] else []) := by
    split_ifs <;> simp
  rw [floatLiteral, Decimal.Layout.render] at h
  cases hm : Decimal.magnitude x with
  | nan => rw [hm] at h; cases h
  | infinite => rw [hm] at h; cases h
  | zero =>
    rw [hm] at h
    cases h
    exact printable_append_iff.2 ⟨hsign, by simp⟩
  | finite b =>
    rw [hm] at h
    cases h
    refine printable_append_iff.2 ⟨hsign, ?_⟩
    rw [Decimal.Layout.digits]
    split_ifs
    · exact printable_positional (printable_natDigits _) _
    · exact printable_scientific (printable_natDigits _) _

/-! ## Strings -/

theorem printable_digitChar {d : ℕ} (h : d < 16) : Printable [Nat.digitChar d] := by
  interval_cases d <;> simp [Nat.digitChar]

theorem printable_unitEscape (n : ℕ) : Printable (unitEscape n) := by
  have hdigits : ∀ width n, Printable (Text.hexDigits width n) := by
    intro width
    induction width with
    | zero => exact fun _ => printable_nil
    | succ width ih =>
      intro n
      rw [Text.hexDigits, printable_append_iff]
      exact ⟨ih _, printable_digitChar (Nat.mod_lt _ (by decide))⟩
  rw [unitEscape, printable_cons_iff, printable_cons_iff]
  exact ⟨by simp, by simp, hdigits 4 n⟩

theorem printable_codeEscape (n : ℕ) : Printable (codeEscape n) := by
  rw [codeEscape]
  split_ifs
  · exact printable_unitEscape n
  · exact printable_append_iff.2 ⟨printable_unitEscape _, printable_unitEscape _⟩

theorem printable_escape (c : Char) : Printable (escape c) := by
  rw [escape]
  split_ifs with _ _ _ _ _ _ _ hrange
  all_goals first
    | exact printable_codeEscape _
    | exact printable_cons_iff.2 ⟨by omega, printable_nil⟩
    | simp

/-- **A string is written in printable characters.** -/
theorem printable_literal (s : String) : Printable (literal s) := by
  rw [literal, List.cons_append, printable_cons_iff, printable_append_iff]
  exact ⟨by simp, printable_flatMap fun c _ => printable_escape c, by simp⟩

theorem printable_pointsLiteral (ps : List ℕ) : Printable (pointsLiteral ps) := by
  have hpoint : ∀ n, Printable (escapePoint n) := by
    intro n
    rw [escapePoint]
    split_ifs
    · exact printable_unitEscape n
    · exact printable_escape _
  rw [pointsLiteral, List.cons_append, printable_cons_iff, printable_append_iff]
  exact ⟨by simp, printable_flatMap fun n _ => hpoint n, by simp⟩

theorem printable_keyLiteral {k : Key} (h : keyLiteral k = .ok cs) : Printable cs := by
  rcases keyLiteral_cases h with ⟨ps, rfl⟩ | ⟨s, -, rfl⟩
  · cases h
    exact printable_pointsLiteral ps
  · exact printable_literal s

end

/-! ## Documents -/

section
variable {st : Style} {P : Key → Prop} {L : Value → Prop}

theorem printable_bracketed {opening closing : Char} (hst : Printable st.itemSeparator)
    (hopening : Printable [opening]) (hclosing : Printable [closing]) {parts : List (List Char)}
    (h : ∀ part ∈ parts, Printable part) :
    Printable (bracketed opening closing st.itemSeparator parts) := by
  rw [bracketed, List.cons_append, printable_cons_iff, printable_append_iff]
  exact ⟨(printable_cons_iff.1 hopening).1, printable_intercalate hst h, hclosing⟩

/-- **A document is written in printable characters**, if the separators of its style are. -/
theorem printable_encode (hitem : Printable st.itemSeparator) (hkey : Printable st.keySeparator)
    (hP : ∀ k, P k → k.IsText) (hL : ∀ vs, ¬ L (.tuple vs)) {v : Value} {text : List Char}
    (hv : st.sorted = true → v.Formed P L) (h : encode st v = .ok text) : Printable text := by
  -- lists and tuples are written alike
  have hsequence : ∀ {vs : List Value} {text : List Char},
      (∀ v ∈ vs, ∀ text, encode st v = .ok text → Printable text) →
      (encodeAll st vs).map (bracketed '[' ']' st.itemSeparator) = .ok text →
        Printable text := by
    intro vs text ih h
    cases htexts : encodeAll st vs with
    | error e => rw [htexts] at h; cases h
    | ok texts =>
      rw [htexts] at h
      cases h
      exact printable_bracketed hitem (by simp) (by simp)
        (forall_mem_of_forall₂ (encodeAll_eq_ok htexts) ih)
  induction v using Value.inductionOn generalizing text with
  | scalar v hscalar =>
    cases v with
    | null => cases h; simp
    | bool b => cases h; cases b <;> simp [boolLiteral]
    | int n =>
      rw [encode] at h
      rw [(intLiteral_eq_ok h).2]
      exact printable_intDigits n
    | float x =>
      rw [encode] at h
      exact printable_render h
    | text s =>
      cases h
      exact printable_literal s
    | surrogates ps =>
      cases h
      exact printable_pointsLiteral ps
    | list vs => cases hscalar
    | tuple vs => cases hscalar
    | mapping fields => cases hscalar
    | _ => cases h
  | list vs ih =>
    rw [encode] at h
    exact hsequence (fun v hmem _ => ih v hmem fun hs => Value.formedAll_iff.1 (hv hs) v hmem) h
  | tuple vs ih =>
    rw [encode] at h
    exact hsequence (fun v hmem _ => ih v hmem fun hs => absurd (hv hs) (hL vs)) h
  | mapping fields ih =>
    have hentries := fun hs => (Value.formed_mapping_iff.1 (hv hs)).2
    rw [encode_mapping fun hs e he => hP _ (hentries hs e he).1] at h
    cases hparts : members st.keySeparator
        ((arranged st fields).map fun e => (e.1, encode st e.2)) with
    | error e => rw [hparts] at h; cases h
    | ok parts =>
      rw [hparts] at h
      cases h
      refine printable_bracketed hitem (by simp) (by simp)
        (forall_mem_of_forall₂ (members_eq_ok hparts) ?_)
      rintro e' he' part ⟨key, value, hkeytext, hvalue, rfl⟩
      obtain ⟨e, he, rfl⟩ := List.mem_map.1 he'
      have he := mem_arranged.1 he
      simp only [printable_append_iff]
      exact ⟨⟨printable_keyLiteral hkeytext, hkey⟩, ih e he (fun hs => (hentries hs e he).2) hvalue⟩

end

end MetricDocs.Json
