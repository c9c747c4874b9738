/-
  Reading documents back.

  * `reread st v` is what is read where `v` was written in the style `st`: tuples become lists, keys
    become texts, and of equal keys the last value counts at the place of the first;
  * `Reads v text`: a reader with enough fuel reads `v` off `text` and leaves what follows;
  * `Reads.list` and `Reads.mapping`: what is read off the parts is read off the whole;
  * `reads_encode`: the text of a value reads as the value reread;
  * `decodeChars?_encode`: the same for whole texts, blanks behind them included.
-/
import MetricDocs.Proofs.Json.Numbers
import MetricDocs.Proofs.Json.Strings
import MetricDocs.Proofs.Value.Formed

namespace MetricDocs.Json

/-! ## What is read back -/

/-- A key as it is read back: its text. -/
def rereadKey : Key → Key
  | .surrogates ps => .ofEscaped (respelled ps)
  | k => match keyText k with
    | .ok s => .text s
    | .error _ => k

/-- Entries in the order of a style. -/
def arranged (st : Style) {α : Type} (es : List (Key × α)) : List (Key × α) :=
  if st.sorted then es.mergeSort textLe else es

mutual

/-- A value as it is read back. -/
def reread (st : Style) : Value → Value
  | .surrogates ps => .ofEscaped (respelled ps)
  | .list vs => .list (rereadAll st vs)
  | .tuple vs => .list (rereadAll st vs)
  | .mapping fields =>
    .mapping (Fields.ofList ((arranged st (rereadFields st fields)).map fun e =>
      (rereadKey e.1, e.2)))
  | v => v

/-- Values as they are read back. -/
def rereadAll (st : Style) : List Value → List Value
  | [] => []
  | v :: vs => reread st v :: rereadAll st vs

/-- Entries with their values as they are read back. -/
def rereadFields (st : Style) : List (Key × Value) → List (Key × Value)
  | [] => []
  | (k, v) :: fields => (k, reread st v) :: rereadFields st fields

end

/-- Separators that a reader skips. -/
structure Style.Legible (st : Style) : Prop where
  item : ∃ s, st.itemSeparator = ',' :: s ∧ ∀ c ∈ s, isSpace c = true
  key : ∃ s, st.keySeparator = ':' :: s ∧ ∀ c ∈ s, isSpace c = true

theorem Style.legible_spaced : Style.spaced.Legible :=
  ⟨⟨[' '], rfl, by simp [isSpace]⟩, ⟨[' '], rfl, by simp [isSpace]⟩⟩

theorem Style.legible_compact : Style.compact.Legible := ⟨⟨_, rfl, by simp⟩, ⟨_, rfl, by simp⟩⟩

/-! ## Blanks -/

/-- The text begins with a part of a value. -/
def Starts (text : List Char) : Prop :=
  ∃ c t, text = c :: t ∧ isSpace c = false ∧ c ≠ ']'

theorem skipSpace_cons {c : Char} {cs : List Char} (h : isSpace c = false) :
    skipSpace (c :: cs) = c :: cs :=
  List.dropWhile_cons_of_neg (by simp [h])

theorem skipSpace_append {s cs : List Char} (h : ∀ c ∈ s, isSpace c = true) :
    skipSpace (s ++ cs) = skipSpace cs :=
  List.dropWhile_append_of_pos h

theorem Starts.skipSpace_append {text : List Char} (h : Starts text) (rest : List Char) :
    skipSpace (text ++ rest) = text ++ rest := by
  obtain ⟨c, t, rfl, hc, -⟩ := h
  exact skipSpace_cons hc

/-! ## Reading parts -/

/-- A reader with enough fuel reads a value off a text, and leaves what follows. -/
structure Reads (v : Value) (text : List Char) : Prop where
  starts : Starts text
  read : ∀ fuel rest, 2 * text.length ≤ fuel → Ended rest →
    value? fuel (text ++ rest) = some (v, rest)

theorem ended_cons {c : Char} (h : c = ',' ∨ c = ']' ∨ c = '\x7d') (rest : List Char) :
    Ended (c :: rest) := by
  intro d hd
  cases hd
  rcases h with rfl | rfl | rfl <;> decide

section
variable {fuel : ℕ} {text rest : List Char}

theorem value?_of_number? {r : Value × List Char} (h : number? text = some r) :
    value? (fuel + 1) text = some r := by
  unfold value?
  split <;> first | exact h | (rw [number?_eq_none (by decide) (by decide)] at h; cases h)

theorem Reads.number {v : Value}
    (h : ∀ rest, Ended rest → number? (text ++ rest) = some (v, rest)) : Reads v text := by
  have hnil := h [] ended_nil
  rw [List.append_nil] at hnil
  rcases text with _ | ⟨c, t⟩
  · cases hnil
  · refine ⟨⟨c, t, rfl, ?_, ?_⟩, fun fuel rest hfuel hrest => ?_⟩
    · rw [Bool.eq_false_iff]
      intro hspace
      have hc : c = ' ' ∨ c = '\t' ∨ c = '\n' ∨ c = '\r' := by
        simpa [isSpace, or_assoc] using hspace
      rcases hc with rfl | rfl | rfl | rfl <;>
        (rw [number?_eq_none (by decide) (by decide)] at hnil; cases hnil)
    · rintro rfl
      rw [number?_eq_none (by decide) (by decide)] at hnil
      cases hnil
    · rw [List.length_cons] at hfuel
      obtain ⟨fuel, rfl⟩ : ∃ f, fuel = f + 1 := ⟨fuel - 1, by omega⟩
      exact value?_of_number? (h rest hrest)

theorem Reads.quoted {e : Text.Escaped} {body : List Char}
    (h : ∀ rest, scanEscaped (body ++ '"' :: rest) = some (e, rest)) :
    Reads (.ofEscaped e) ('"' :: body ++ ['"']) := by
  refine ⟨⟨'"', _, rfl, by decide, by decide⟩, fun fuel rest hfuel _ => ?_⟩
  obtain ⟨fuel, rfl⟩ : ∃ f, fuel = f + 1 := ⟨fuel - 1, by simp at hfuel; omega⟩
  rw [List.cons_append, List.cons_append, List.append_assoc, List.singleton_append]
  simp only [value?, h, Option.map_some]

theorem Reads.null : Reads .null "null".toList :=
  ⟨⟨'n', _, rfl, by decide, by decide⟩, fun fuel rest hfuel _ => by
    obtain ⟨fuel, rfl⟩ : ∃ f, fuel = f + 1 := ⟨fuel - 1, by simp at hfuel; omega⟩
    rfl⟩

theorem Reads.bool (b : Bool) : Reads (.bool b) (boolLiteral b) := by
  cases b with
  | true =>
    refine ⟨⟨'t', _, rfl, by decide, by decide⟩, fun fuel rest hfuel _ => ?_⟩
    obtain ⟨fuel, rfl⟩ : ∃ f, fuel = f + 1 := ⟨fuel - 1, by simp [boolLiteral] at hfuel; omega⟩
    rfl
  | false =>
    refine ⟨⟨'f', _, rfl, by decide, by decide⟩, fun fuel rest hfuel _ => ?_⟩
    obtain ⟨fuel, rfl⟩ : ∃ f, fuel = f + 1 := ⟨fuel - 1, by simp [boolLiteral] at hfuel; omega⟩
    rfl

end

/-! ## Reading wholes -/

section
variable {s : List Char}

theorem Starts.append {text : List Char} (h : Starts text) (more : List Char) :
    Starts (text ++ more) := by
  obtain ⟨c, t, rfl, hc⟩ := h
  exact ⟨c, t ++ more, rfl, hc⟩

theorem Starts.intercalate {text : List Char} (h : Starts text) (sep : List Char)
    (texts : List (List Char)) : Starts (sep.intercalate (text :: texts)) := by
  cases texts with
  | nil => rwa [List.intercalate_singleton]
  | cons text' texts =>
    rw [List.intercalate_cons_cons, List.append_assoc]
    exact h.append _

theorem items?_intercalate (hs : ∀ c ∈ s, isSpace c = true) {vs : List Value}
    {texts : List (List Char)} (h : List.Forall₂ Reads vs texts) (hne : vs ≠ []) (fuel : ℕ)
    (rest : List Char) (hfuel : 2 * ((',' :: s).intercalate texts).length + 1 ≤ fuel) :
    items? fuel ((',' :: s).intercalate texts ++ ']' :: rest) = some (vs, rest) := by
  induction h generalizing fuel with
  | nil => exact absurd rfl hne
  | @cons v text vs texts hv htail ih =>
    obtain ⟨fuel, rfl⟩ : ∃ f, fuel = f + 1 := ⟨fuel - 1, by omega⟩
    -- the last item has a bracket behind it, any other one a comma
    cases htail with
    | nil =>
      rw [List.intercalate_singleton] at hfuel ⊢
      rw [items?, hv.read fuel _ (by omega) (ended_cons (by simp) rest)]
      simp only
      rw [skipSpace_cons (by rfl)]
      rfl
    | @cons v' text' vs texts hv' htail =>
      rw [List.intercalate_cons_cons] at hfuel ⊢
      simp only [List.length_append, List.length_cons] at hfuel
      have hread := ih (List.cons_ne_nil _ _) fuel (by omega)
      rw [List.append_assoc, List.append_assoc, items?, List.cons_append,
        hv.read fuel _ (by omega) (ended_cons (by simp) _)]
      simp only
      rw [skipSpace_cons (by rfl)]
      simp only
      rw [skipSpace_append hs, (hv'.starts.intercalate _ _).skipSpace_append, hread]
      rfl

/-- **An array is read off the texts of its items.** -/
theorem Reads.list (hs : ∀ c ∈ s, isSpace c = true) {vs : List Value} {texts : List (List Char)}
    (h : List.Forall₂ Reads vs texts) :
    Reads (.list vs) (bracketed '[' ']' (',' :: s) texts) := by
  refine ⟨⟨'[', _, rfl, by decide, by decide⟩, fun fuel rest hfuel _ => ?_⟩
  rw [bracketed] at hfuel ⊢
  simp only [List.length_append, List.length_cons, List.length_nil] at hfuel
  obtain ⟨fuel, rfl⟩ : ∃ f, fuel = f + 1 := ⟨fuel - 1, by omega⟩
  rw [List.append_assoc, List.cons_append, List.singleton_append, value?]
  cases h with
  | nil =>
    rw [List.intercalate_nil, List.nil_append, skipSpace_cons (by rfl)]
    rfl
  | @cons v text vs texts hv htail =>
    have hstarts := hv.starts.intercalate (',' :: s) texts
    have hread := items?_intercalate hs (.cons hv htail) (List.cons_ne_nil _ _) fuel rest (by omega)
    rw [hstarts.skipSpace_append]
    obtain ⟨c, t, heq, -, hc⟩ := hstarts
    rw [heq] at hread ⊢
    rw [List.cons_append] at hread ⊢
    split
    · rename_i h
      exact absurd (List.cons.inj h).1 hc
    · rw [hread]
      rfl

/-- An entry is read off its key as a literal, a colon and the text of its value. -/
structure ReadsEntry (s : List Char) (e : Key × Value) (part : List Char) : Prop where
  split : ∃ body k text, part = '"' :: body ++ ['"'] ++ ':' :: s ++ text ∧ e.1 = .ofEscaped k ∧
    (∀ rest, scanEscaped (body ++ '"' :: rest) = some (k, rest)) ∧ Reads e.2 text

theorem ReadsEntry.starts {e : Key × Value} {part : List Char} (h : ReadsEntry s e part) :
    ∃ t, part = '"' :: t := by
  obtain ⟨body, k, text, rfl, -⟩ := h
  exact ⟨_, rfl⟩

/-- How the entries of an object go on behind one of them. -/
def membersAfter (fuel : ℕ) (e : Key × Value) (rest : List Char) :
    Option (List (Key × Value) × List Char) :=
  match skipSpace rest with
  | '\x7d' :: rest => some ([e], rest)
  | ',' :: r => (members? fuel (skipSpace r)).map fun p => (e :: p.1, p.2)
  | _ => none

theorem members?_entry {s' : List Char} (hs' : ∀ c ∈ s', isSpace c = true) {e : Key × Value}
    {part : List Char} (he : ReadsEntry s' e part) {fuel : ℕ} {rest : List Char}
    (hfuel : 2 * part.length ≤ fuel) (hrest : Ended rest) :
    members? (fuel + 1) (part ++ rest) = membersAfter fuel e rest := by
  obtain ⟨k, v⟩ := e
  obtain ⟨body, k, text, rfl, rfl, hkey, hv⟩ := he
  simp only [List.length_append, List.length_cons, List.length_nil] at hfuel
  rw [List.append_assoc, List.append_assoc, List.append_assoc, List.cons_append,
    List.singleton_append, members?, hkey]
  simp only
  rw [List.cons_append, skipSpace_cons (by rfl)]
  simp only
  rw [skipSpace_append hs', hv.starts.skipSpace_append, hv.read fuel _ (by omega) hrest]
  rfl

theorem members?_intercalate {s' : List Char} (hs : ∀ c ∈ s, isSpace c = true)
    (hs' : ∀ c ∈ s', isSpace c = true) {es : List (Key × Value)} {parts : List (List Char)}
    (h : List.Forall₂ (ReadsEntry s') es parts) (hne : es ≠ []) (fuel : ℕ) (rest : List Char)
    (hfuel : 2 * ((',' :: s).intercalate parts).length + 1 ≤ fuel) :
    members? fuel ((',' :: s).intercalate parts ++ '\x7d' :: rest) = some (es, rest) := by
  induction h generalizing fuel with
  | nil => exact absurd rfl hne
  | @cons e part es parts he htail ih =>
    obtain ⟨fuel, rfl⟩ : ∃ f, fuel = f + 1 := ⟨fuel - 1, by omega⟩
    -- as for items: a brace behind the last entry, a comma behind the others
    cases htail with
    | nil =>
      rw [List.intercalate_singleton] at hfuel ⊢
      rw [members?_entry hs' he (by omega) (ended_cons (by simp) rest), membersAfter,
        skipSpace_cons (by rfl)]
      rfl
    | @cons e' part' es parts he' htail =>
      rw [List.intercalate_cons_cons] at hfuel ⊢
      simp only [List.length_append, List.length_cons] at hfuel
      have hread := ih (List.cons_ne_nil _ _) fuel (by omega)
      have hstarts : Starts part' := by
        obtain ⟨t, rfl⟩ := he'.starts
        exact ⟨'"', t, rfl, by decide, by decide⟩
      rw [List.append_assoc, List.append_assoc, List.cons_append,
        members?_entry hs' he (by omega) (ended_cons (by simp) _), membersAfter,
        skipSpace_cons (by rfl)]
      simp only
      rw [skipSpace_append hs, (hstarts.intercalate _ _).skipSpace_append, hread]
      rfl

/-- **An object is read off the texts of its entries.** -/
theorem Reads.mapping {s' : List Char} (hs : ∀ c ∈ s, isSpace c = true)
    (hs' : ∀ c ∈ s', isSpace c = true) {es : List (Key × Value)} {parts : List (List Char)}
    (h : List.Forall₂ (ReadsEntry s') es parts) :
    Reads (.mapping (Fields.ofList es)) (bracketed '\x7b' '\x7d' (',' :: s) parts) := by
  refine ⟨⟨'\x7b', _, rfl, by decide, by decide⟩, fun fuel rest hfuel _ => ?_⟩
  rw [bracketed] at hfuel ⊢
  simp only [List.length_append, List.length_cons, List.length_nil] at hfuel
  obtain ⟨fuel, rfl⟩ : ∃ f, fuel = f + 1 := ⟨fuel - 1, by omega⟩
  rw [List.append_assoc, List.cons_append, List.singleton_append, value?]
  cases h with
  | nil =>
    rw [List.intercalate_nil, List.nil_append, skipSpace_cons (by rfl)]
    rfl
  | @cons e part es parts he htail =>
    have hstarts : ∃ t, (',' :: s).intercalate (part :: parts) = '"' :: t := by
      obtain ⟨t, rfl⟩ := he.starts
      cases parts with
      | nil => exact ⟨t, List.intercalate_singleton⟩
      | cons part' parts => exact ⟨_, by rw [List.intercalate_cons_cons]; rfl⟩
    have hread := members?_intercalate hs hs' (.cons he htail) (List.cons_ne_nil _ _) fuel rest
      (by omega)
    obtain ⟨t, heq⟩ := hstarts
    rw [heq, List.cons_append] at hread ⊢
    rw [skipSpace_cons (by rfl)]
    exact congrArg (Option.map _) hread

end

/-! ## The round trip -/

theorem forall_mem_of_forall₂ {α β : Type} {R : α → β → Prop} {Q : β → Prop} {as : List α}
    {bs : List β} (h : List.Forall₂ R as bs) (hQ : ∀ a ∈ as, ∀ b, R a b → Q b) :
    ∀ b ∈ bs, Q b := by
  induction h with
  | nil => exact fun _ hb => by cases hb
  | cons hab _ ih =>
    obtain ⟨hhead, htail⟩ := List.forall_mem_cons.1 hQ
    exact List.forall_mem_cons.2 ⟨hhead _ hab, ih htail⟩

theorem keyLiteral_cases {k : Key} {text : List Char} (h : keyLiteral k = .ok text) :
    (∃ ps, k = .surrogates ps) ∨ ∃ s, rereadKey k = .text s ∧ text = literal s := by
  by_cases hk : ∃ ps, k = .surrogates ps
  · exact Or.inl hk
  · have htext : keyLiteral k = (keyText k).map literal := by
      cases k <;> first | rfl | exact absurd ⟨_, rfl⟩ hk
    rw [htext] at h
    cases hs : keyText k with
    | error e => rw [hs] at h; cases h
    | ok s =>
      rw [hs] at h
      cases h
      refine Or.inr ⟨s, ?_, rfl⟩
      cases k <;> first | exact absurd ⟨_, rfl⟩ hk | (rw [rereadKey, hs]; simp)

theorem keyLiteral_eq_ok {k : Key} {text : List Char} (h : keyLiteral k = .ok text) :
    ∃ body e, text = '"' :: body ++ ['"'] ∧ rereadKey k = .ofEscaped e ∧
      ∀ rest, scanEscaped (body ++ '"' :: rest) = some (e, rest) := by
  rcases keyLiteral_cases h with ⟨ps, rfl⟩ | ⟨s, hs, rfl⟩
  · cases h
    exact ⟨_, _, rfl, rfl, scanEscaped_points ps⟩
  · exact ⟨_, .string s, rfl, hs, scanEscaped_text s⟩

theorem members_eq_ok {sep : List Char} {es : List (Key × Except Failure (List Char))}
    {parts : List (List Char)} (h : members sep es = .ok parts) :
    List.Forall₂ (fun e part => ∃ key value, keyLiteral e.1 = .ok key ∧ e.2 = .ok value ∧
      part = key ++ sep ++ value) es parts := by
  induction es generalizing parts with
  | nil =>
    cases h
    exact .nil
  | cons e es ih =>
    obtain ⟨k, v⟩ := e
    rw [members] at h
    cases hk : keyLiteral k with
    | error f => rw [hk] at h; cases h
    | ok key =>
      cases v with
      | error f => rw [hk] at h; cases h
      | ok value =>
        cases hes : members sep es with
        | error f => rw [hk, hes] at h; cases h
        | ok rest =>
          rw [hk, hes] at h
          cases h
          exact .cons ⟨key, value, hk, rfl, rfl⟩ (ih hes)

theorem exists_of_members_eq_ok {sep : List Char} {es : List (Key × Except Failure (List Char))}
    {parts : List (List Char)} (h : members sep es = .ok parts)
    {e : Key × Except Failure (List Char)} (he : e ∈ es) :
    (∃ key, keyLiteral e.1 = .ok key) ∧ ∃ value, e.2 = .ok value := by
  have hall := (members_eq_ok h).imp (S := fun e _ => ((∃ key, keyLiteral e.1 = .ok key) ∧
    ∃ value, e.2 = .ok value) ∧ True) fun _ _ ⟨key, value, hkey, hvalue, _⟩ =>
      ⟨⟨⟨key, hkey⟩, ⟨value, hvalue⟩⟩, trivial⟩
  exact ((List.forall₂_and_left _ _).1 hall).1 e he

theorem encodeFields_eq (st : Style) (fields : List (Key × Value)) :
    encodeFields st fields = fields.map fun e => (e.1, encode st e.2) := by
  induction fields with
  | nil => rfl
  | cons e fields ih =>
    obtain ⟨k, v⟩ := e
    rw [encodeFields, ih]
    rfl

theorem rereadFields_eq (st : Style) (fields : List (Key × Value)) :
    rereadFields st fields = fields.map fun e => (e.1, reread st e.2) := by
  induction fields with
  | nil => rfl
  | cons e fields ih =>
    obtain ⟨k, v⟩ := e
    rw [rereadFields, ih]
    rfl

theorem rereadAll_eq (st : Style) (vs : List Value) : rereadAll st vs = vs.map (reread st) := by
  induction vs with
  | nil => rfl
  | cons v vs ih => rw [rereadAll, ih, List.map_cons]

theorem isScalar_reread {st : Style} {v : Value} (h : v.isScalar = true) :
    (reread st v).isScalar = true := by
  cases v with
  | surrogates ps =>
    rw [reread]
    cases respelled ps <;> rfl
  | _ => first | rfl | cases h

theorem encodeAll_eq_ok {st : Style} {vs : List Value} {texts : List (List Char)}
    (h : encodeAll st vs = .ok texts) :
    List.Forall₂ (fun v text => encode st v = .ok text) vs texts := by
  induction vs generalizing texts with
  | nil =>
    cases h
    exact .nil
  | cons v vs ih =>
    rw [encodeAll] at h
    cases hv : encode st v with
    | error e => rw [hv] at h; cases h
    | ok text =>
      cases hvs : encodeAll st vs with
      | error e => rw [hv, hvs] at h; cases h
      | ok rest =>
        rw [hv, hvs] at h
        cases h
        exact .cons hv (ih hvs)

theorem exists_of_encodeAll_eq_ok {st : Style} {vs : List Value} {texts : List (List Char)}
    (h : encodeAll st vs = .ok texts) : ∀ v ∈ vs, ∃ text, encode st v = .ok text := by
  have hall := encodeAll_eq_ok h
  clear h
  induction hall with
  | nil => exact fun _ hv => by cases hv
  | cons hv _ ih => exact List.forall_mem_cons.2 ⟨⟨_, hv⟩, ih⟩

section
variable {st : Style} {α β : Type}

theorem arranged_map (f : α → β) (es : List (Key × α)) :
    arranged st (es.map fun e => (e.1, f e.2)) = (arranged st es).map fun e => (e.1, f e.2) := by
  rw [arranged, arranged]
  split_ifs
  · refine (List.map_mergeSort fun a _ b _ => ?_).symm
    rfl
  · rfl

theorem perm_arranged (es : List (Key × α)) : (arranged st es).Perm es := by
  rw [arranged]
  split_ifs
  · exact List.mergeSort_perm es textLe
  · rfl

theorem mem_arranged {es : List (Key × α)} {e : Key × α} : e ∈ arranged st es ↔ e ∈ es :=
  (perm_arranged es).mem_iff

theorem reread_mapping_eq (fields : Fields) :
    reread st (.mapping fields) = .mapping (Fields.ofList
      ((arranged st fields).map fun e => (rereadKey e.1, reread st e.2))) := by
  rw [reread, rereadFields_eq, arranged_map, List.map_map]
  rfl

end

theorem encode_mapping {st : Style} {fields : List (Key × Value)}
    (h : st.sorted = true → ∀ e ∈ fields, e.1.IsText) :
    encode st (.mapping fields) =
      (members st.keySeparator ((arranged st fields).map fun e => (e.1, encode st e.2))).map
        (bracketed '\x7b' '\x7d' st.itemSeparator) := by
  rw [encode, ← arranged_map, ← encodeFields_eq]
  cases hsorted : st.sorted with
  | false =>
    have harranged : arranged st (encodeFields st fields) = encodeFields st fields := by
      rw [arranged, if_neg (by simp [hsorted])]
    rw [harranged]
    rfl
  | true =>
    have hsort : sortByKey (encodeFields st fields) =
        .ok (arranged st (encodeFields st fields)) := by
      rw [arranged, if_pos hsorted, sortByKey, if_pos]
      rw [encodeFields_eq, List.all_map, List.all_eq_true]
      exact h hsorted
    simp only [↓reduceIte, hsort]
    rfl

theorem exists_of_encode_mapping {st : Style} {fields : Fields}
    (hst : st.sorted = true → ∀ e ∈ fields, e.1.IsText)
    {text : List Char} (h : encode st (.mapping fields) = .ok text) :
    ∀ e ∈ fields, (∃ key, keyLiteral e.1 = .ok key) ∧ ∃ value, encode st e.2 = .ok value := by
  intro e he
  rw [encode_mapping hst] at h
  cases hparts : members st.keySeparator
      ((arranged st fields).map fun e => (e.1, encode st e.2)) with
  | error f => rw [hparts] at h; cases h
  | ok parts => exact exists_of_members_eq_ok hparts (List.mem_map_of_mem (mem_arranged.2 he))

theorem intLiteral_eq_ok {n : ℤ} {text : List Char} (h : intLiteral n = .ok text) :
    Decimal.tooLong n = false ∧ text = Decimal.intDigits n := by
  rw [intLiteral] at h
  cases hlong : Decimal.tooLong n with
  | true => rw [hlong] at h; cases h
  | false =>
    rw [hlong] at h
    cases h
    exact ⟨rfl, rfl⟩

section
variable {st : Style} (hst : st.Legible)
include hst

theorem reads_bracketed {vs : List Value} {text : List Char}
    (hvs : ∀ texts, encodeAll st vs = .ok texts → List.Forall₂ Reads (rereadAll st vs) texts)
    (h : (encodeAll st vs).map (bracketed '[' ']' st.itemSeparator) = .ok text) :
    Reads (.list (rereadAll st vs)) text := by
  obtain ⟨s, hitem, hs⟩ := hst.item
  rw [hitem] at h
  cases htexts : encodeAll st vs with
  | error e => rw [htexts] at h; cases h
  | ok texts =>
    rw [htexts] at h
    cases h
    exact Reads.list hs (hvs texts htexts)

theorem reads_mapping {fields : Fields} {text : List Char}
    (hkeys : st.sorted = true → ∀ e ∈ fields, e.1.IsText)
    (hvalues : ∀ e ∈ fields, ∀ value, encode st e.2 = .ok value → Reads (reread st e.2) value)
    (h : encode st (.mapping fields) = .ok text) : Reads (reread st (.mapping fields)) text := by
  obtain ⟨s, hitem, hs⟩ := hst.item
  obtain ⟨s', hkey, hs'⟩ := hst.key
  rw [encode_mapping hkeys, hitem, hkey] at h
  cases hparts : members (':' :: s') ((arranged st fields).map fun e => (e.1, encode st e.2)) with
  | error e => rw [hparts] at h; cases h
  | ok parts =>
    rw [hparts] at h
    cases h
    rw [reread_mapping_eq]
    refine Reads.mapping hs hs' ?_
    have hall := members_eq_ok hparts
    rw [List.forall₂_map_left_iff] at hall
    rw [List.forall₂_map_left_iff]
    have hmem : ∀ e ∈ arranged st fields, e ∈ fields := fun e he => mem_arranged.1 he
    refine ((List.forall₂_and_left _ _).2 ⟨hmem, hall⟩).imp ?_
    rintro e part ⟨he, key, value, hkey, hvalue, rfl⟩
    obtain ⟨body, k, rfl, hk, hscan⟩ := keyLiteral_eq_ok hkey
    exact ⟨body, k, value, rfl, hk, hscan, hvalues e he value hvalue⟩

end

section
variable {st : Style} {P : Key → Prop} {L : Value → Prop}

mutual

/-- **The text of a value reads as the value reread.** -/
theorem reads_encode (hst : st.Legible) (hP : ∀ k, P k → k.IsText) (hL : ∀ vs, ¬ L (.tuple vs)) :
    ∀ (v : Value) {text : List Char}, (st.sorted = true → v.Formed P L) →
      encode st v = .ok text → Reads (reread st v) text
  | .null, _ => fun _ h => by
    cases h
    exact Reads.null
  | .bool b, _ => fun _ h => by
    cases h
    exact Reads.bool b
  | .int n, _ => fun _ h => by
    rw [encode] at h
    rw [(intLiteral_eq_ok h).2]
    exact Reads.number fun rest hrest => number?_int n hrest
  | .float x, _ => fun _ h => by
    rw [encode] at h
    exact Reads.number fun rest hrest => number?_float h hrest
  | .text s, _ => fun _ h => by
    cases h
    exact Reads.quoted (scanEscaped_text s)
  | .surrogates ps, _ => fun _ h => by
    cases h
    exact Reads.quoted (scanEscaped_points ps)
  | .bytes _, _ => fun _ h => by cases h
  | .date _, _ => fun _ h => by cases h
  | .moment _, _ => fun _ h => by cases h
  | .set _, _ => fun _ h => by cases h
  | .list vs, _ => fun ht h => by
    rw [encode] at h
    exact reads_bracketed hst (fun _ hvs => reads_encodeAll hst hP hL vs ht hvs) h
  | .tuple vs, _ => fun ht h => by
    rw [encode] at h
    exact reads_bracketed hst
      (fun _ hvs => reads_encodeAll hst hP hL vs (fun hs => absurd (ht hs) (hL vs)) hvs) h
  | .mapping fields, _ => fun ht h => by
    refine reads_mapping hst (fun hs e he => ?_) (fun e he _ hvalue => ?_) h
    · exact hP _ ((Value.formed_mapping_iff.1 (ht hs)).2 e he).1
    · exact reads_encodeFields hst hP hL fields (fun hs => (ht hs).2) e he hvalue

theorem reads_encodeAll (hst : st.Legible) (hP : ∀ k, P k → k.IsText)
    (hL : ∀ vs, ¬ L (.tuple vs)) : ∀ (vs : List Value) {texts : List (List Char)},
      (st.sorted = true → Value.FormedAll P L vs) → encodeAll st vs = .ok texts →
        List.Forall₂ Reads (rereadAll st vs) texts
  | [], _ => fun _ h => by
    cases h
    exact .nil
  | v :: vs, _ => fun ht h => by
    rw [encodeAll] at h
    cases hv : encode st v with
    | error e => rw [hv] at h; cases h
    | ok text =>
      cases hvs : encodeAll st vs with
      | error e => rw [hv, hvs] at h; cases h
      | ok rest =>
        rw [hv, hvs] at h
        cases h
        exact .cons (reads_encode hst hP hL v (fun hs => (ht hs).1) hv)
          (reads_encodeAll hst hP hL vs (fun hs => (ht hs).2) hvs)

theorem reads_encodeFields (hst : st.Legible) (hP : ∀ k, P k → k.IsText)
    (hL : ∀ vs, ¬ L (.tuple vs)) : ∀ (fields : List (Key × Value)),
      (st.sorted = true → Value.FormedFields P L fields) → ∀ e ∈ fields, ∀ {text : List Char},
        encode st e.2 = .ok text → Reads (reread st e.2) text
  | [] => fun _ _ he => by cases he
  | (k, v) :: fields => fun ht e he _ h => by
    rcases List.mem_cons.1 he with rfl | he
    · exact reads_encode hst hP hL v (fun hs => (ht hs).2.1) h
    · exact reads_encodeFields hst hP hL fields (fun hs => (ht hs).2.2) e he h

end

/-- **A whole text reads back**, blanks behind it or not. -/
theorem decodeChars?_encode (hst : st.Legible) (hP : ∀ k, P k → k.IsText)
    (hL : ∀ vs, ¬ L (.tuple vs)) {v : Value} {text tail : List Char}
    (hv : st.sorted = true → v.Formed P L) (h : encode st v = .ok text)
    (htail : ∀ c ∈ tail, isSpace c = true) :
    decodeChars? (text ++ tail) = some (reread st v) := by
  have hreads := reads_encode hst hP hL v hv h
  have hended : Ended tail := by
    intro c hc
    have hspace : c = ' ' ∨ c = '\t' ∨ c = '\n' ∨ c = '\r' := by
      simpa [isSpace, or_assoc] using htail c (List.mem_of_mem_head? hc)
    rcases hspace with rfl | rfl | rfl | rfl <;> decide
  have hskip : skipSpace tail = [] := List.dropWhile_eq_nil_iff.2 htail
  rw [decodeChars?, hreads.starts.skipSpace_append, hreads.read _ _ (by simp; omega) hended]
  simp only [hskip, List.isEmpty_nil, ↓reduceIte]

end

end MetricDocs.Json
