/-
  Values that reading back leaves as they are.

  * `Settled v`: the keys of every mapping inside `v` are distinct texts that read back as
    themselves, and every leaf can be written and is no tuple;
  * `settled_reread` and `exists_encode`: what is read back from a document is settled, and what is
    settled can be written;
  * `exists_encode_at?`: what stands in a value that was written can be written;
  * `at?_reread` and `leaf_reread_iff`: reading a settled value back keeps what stands along every
    sequence of keys;
  * `exists_of_leaf_reread`: every leaf that is read back was written, at keys whose texts are its
    keys.
-/
import MetricDocs.Proofs.Json.RoundTrip

namespace MetricDocs

/-- Entries lead from a value along keys to another value. -/
inductive Value.Leads : Value → List Key → Value → Prop
  | here (v : Value) : Value.Leads v [] v
  | entry {fields : Fields} {k : Key} {ks : List Key} {v w : Value} :
      (k, v) ∈ fields → Value.Leads v ks w → Value.Leads (.mapping fields) (k :: ks) w

/-! ## Texts with halves -/

namespace Text

/-- No two halves side by side make up a character. -/
def Apart (ps : List ℕ) : Prop :=
  ps.IsChain fun n m => ¬ (isHighHalf n = true ∧ isLowHalf m = true)

theorem joinHalf_of_apart {n : ℕ} {ps : List ℕ} (h : Apart (n :: ps)) :
    joinHalf n ps = n :: ps := by
  cases ps with
  | nil => rfl
  | cons m ps =>
    have hnot := (List.isChain_cons_cons.1 h).1
    rw [joinHalf, if_neg (by simpa using hnot)]

theorem foldr_joinHalf_of_apart {ps : List ℕ} (h : Apart ps) : ps.foldr joinHalf [] = ps := by
  induction ps with
  | nil => rfl
  | cons n ps ih => rw [List.foldr_cons, ih h.tail, joinHalf_of_apart h]

theorem isSurrogate_joinedPoint {n m : ℕ} (hn : isHighHalf n = true) (hm : isLowHalf m = true) :
    isSurrogate (joinedPoint n m) = false ∧ joinedPoint n m < 0x110000 := by
  rw [isHighHalf_iff] at hn
  rw [isLowHalf_iff] at hm
  rw [← Bool.not_eq_true, isSurrogate_iff]
  unfold joinedPoint
  omega

theorem apart_joinHalf {n : ℕ} {ps : List ℕ} (h : Apart ps) : Apart (joinHalf n ps) := by
  cases ps with
  | nil => exact List.isChain_singleton _
  | cons m ps =>
    rw [joinHalf]
    split_ifs with hpair
    · rw [Bool.and_eq_true] at hpair
      have hnot := Bool.or_eq_false_iff.1 (isSurrogate_joinedPoint hpair.1 hpair.2).1
      refine List.isChain_cons.2 ⟨fun k _ hk => ?_, h.tail⟩
      rw [hnot.1] at hk
      cases hk.1
    · exact List.isChain_cons_cons.2 ⟨by simpa using hpair, h⟩

theorem apart_foldr (ps : List ℕ) : Apart (ps.foldr joinHalf []) := by
  induction ps with
  | nil => exact List.isChain_nil
  | cons n ps ih => exact apart_joinHalf ih

end Text

namespace Json

theorem spelled_of_surrogate {n : ℕ} (h : Text.isSurrogate n = true) : spelled n = n := by
  rw [spelled, if_pos h]

theorem spelled_of_lt {n : ℕ} (h : Text.isSurrogate n = false) (hlt : n < 0x110000) :
    spelled n = n := by
  rw [spelled, if_neg (by simp [h])]
  rw [← Bool.not_eq_true, Text.isSurrogate_iff] at h
  exact toNat_ofNat_of_valid (by omega)

theorem spelled_spelled (n : ℕ) : spelled (spelled n) = spelled n := by
  cases h : Text.isSurrogate n with
  | true => rw [spelled_of_surrogate h, spelled_of_surrogate h]
  | false =>
    have hn : spelled n = (Char.ofNat n).toNat := by rw [spelled, if_neg (by simp [h])]
    have hlt : (Char.ofNat n).toNat < 0x110000 := by
      have hvalid : (Char.ofNat n).toNat < 0xd800 ∨
        0xdfff < (Char.ofNat n).toNat ∧ (Char.ofNat n).toNat < 0x110000 := (Char.ofNat n).valid
      omega
    rw [hn, spelled_of_lt (Text.isSurrogate_toNat _) hlt]

theorem spelled_of_mem_foldr {ps : List ℕ} (h : ∀ n ∈ ps, spelled n = n) :
    ∀ n ∈ ps.foldr Text.joinHalf [], spelled n = n := by
  induction ps with
  | nil => simp
  | cons n ps ih =>
    obtain ⟨hn, hps⟩ := List.forall_mem_cons.1 h
    have ih := ih hps
    rw [List.foldr_cons]
    generalize ps.foldr Text.joinHalf [] = qs at ih ⊢
    cases qs with
    | nil => simpa [Text.joinHalf] using hn
    | cons m qs =>
      rw [Text.joinHalf]
      split_ifs with hpair
      · rw [Bool.and_eq_true] at hpair
        have hjoined := Text.isSurrogate_joinedPoint hpair.1 hpair.2
        exact List.forall_mem_cons.2 ⟨spelled_of_lt hjoined.1 hjoined.2,
          (List.forall_mem_cons.1 ih).2⟩
      · exact List.forall_mem_cons.2 ⟨hn, ih⟩

theorem respelled_of_respelled {ps qs : List ℕ} (h : respelled ps = .surrogates qs) :
    respelled qs = .surrogates qs := by
  have hqs : (ps.map spelled).foldr Text.joinHalf [] = qs ∧ qs.any Text.isSurrogate = true := by
    rw [respelled, Text.Escaped.ofPoints] at h
    split_ifs at h with hany
    cases h
    exact ⟨rfl, hany⟩
  obtain ⟨rfl, hany⟩ := hqs
  have hspelled : ∀ n ∈ ps.map spelled, spelled n = n := by
    intro n hn
    obtain ⟨m, -, rfl⟩ := List.mem_map.1 hn
    exact spelled_spelled m
  rw [respelled, List.map_congr_left (spelled_of_mem_foldr hspelled), List.map_id',
    Text.foldr_joinHalf_of_apart (Text.apart_foldr _), Text.Escaped.ofPoints, if_pos hany]

/-! ## Keys -/

/-- The key is a text that reads back as itself. -/
def SettledKey (k : Key) : Prop := k.IsText ∧ rereadKey k = k

theorem settledKey_text (s : String) : SettledKey (.text s) := ⟨rfl, rfl⟩

theorem SettledKey.isText (k : Key) (h : SettledKey k) : k.IsText := h.1

theorem settledKey_rereadKey {k : Key} {text : List Char} (h : keyLiteral k = .ok text) :
    SettledKey (rereadKey k) := by
  rcases keyLiteral_cases h with ⟨ps, rfl⟩ | ⟨s, hs, -⟩
  · rw [rereadKey]
    cases hps : respelled ps with
    | string s => exact settledKey_text s
    | surrogates qs =>
      refine ⟨rfl, ?_⟩
      rw [Key.ofEscaped, rereadKey, respelled_of_respelled hps, Key.ofEscaped]
  · rw [hs]
    exact settledKey_text s

theorem exists_keyLiteral {k : Key} (h : k.IsText) : ∃ text, keyLiteral k = .ok text := by
  cases k with
  | text s => exact ⟨literal s, rfl⟩
  | surrogates ps => exact ⟨_, rfl⟩
  | _ => cases h

/-! ## Values -/

/-- What stands for itself in a document: it can be written, and is no tuple. -/
def Plain (v : Value) : Prop := (∀ st, ∃ text, encode st v = .ok text) ∧ ∀ vs, v ≠ .tuple vs

theorem plain_null : Plain .null := ⟨fun _ => ⟨_, by rw [encode]⟩, fun _ h => by cases h⟩

theorem plain_bool (b : Bool) : Plain (.bool b) :=
  ⟨fun _ => ⟨_, by rw [encode]⟩, fun _ h => by cases h⟩

theorem plain_float {x : Float} {text : List Char} (h : floatLiteral x = .ok text) :
    Plain (.float x) :=
  ⟨fun _ => ⟨text, by rw [encode, h]⟩, fun _ h => by cases h⟩

theorem plain_text (s : String) : Plain (.text s) :=
  ⟨fun st => ⟨literal s, by rw [encode]⟩, fun _ h => by cases h⟩

theorem plain_int {n : ℤ} (h : Decimal.tooLong n = false) : Plain (.int n) := by
  refine ⟨fun st => ⟨Decimal.intDigits n, ?_⟩, fun _ h => by cases h⟩
  rw [encode, intLiteral, h]
  rfl

/-- A value whose keys read back as themselves and whose leaves stand for themselves. -/
def Settled (v : Value) : Prop := v.Formed SettledKey Plain

theorem exists_members (sep : List Char) (es : List (Key × Except Failure (List Char)))
    (h : ∀ e ∈ es, e.1.IsText ∧ ∃ text, e.2 = .ok text) : ∃ parts, members sep es = .ok parts := by
  induction es with
  | nil => exact ⟨[], rfl⟩
  | cons e es ih =>
    obtain ⟨k, v⟩ := e
    obtain ⟨⟨hk, value, rfl⟩, hes⟩ := List.forall_mem_cons.1 h
    obtain ⟨key, hkey⟩ := exists_keyLiteral hk
    obtain ⟨parts, hparts⟩ := ih hes
    exact ⟨(key ++ sep ++ value) :: parts, by rw [members, hkey, hparts]; rfl⟩

section
variable {st : Style}

/-- **What is read back is of every form that its scalars are of.** -/
theorem formed_reread {L : Value → Prop} (hst : st.sorted = false)
    (hL : ∀ u text, u.isScalar = true → encode st u = .ok text → L (reread st u)) {v : Value}
    {text : List Char} (h : encode st v = .ok text) : (reread st v).Formed SettledKey L := by
  have hsequence : ∀ (vs : List Value) {text : List Char},
      (∀ v ∈ vs, ∀ {text}, encode st v = .ok text → (reread st v).Formed SettledKey L) →
      (encodeAll st vs).map (bracketed '[' ']' st.itemSeparator) = .ok text →
        Value.FormedAll SettledKey L (rereadAll st vs) := by
    intro vs text ih h
    cases htexts : encodeAll st vs with
    | error e => rw [htexts] at h; cases h
    | ok texts =>
      rw [rereadAll_eq, Value.formedAll_iff]
      refine List.forall_mem_map.2 fun v hv => ?_
      obtain ⟨text, htext⟩ := exists_of_encodeAll_eq_ok htexts v hv
      exact ih v hv htext
  induction v using Value.inductionOn generalizing text with
  | scalar v hv => exact (Value.formed_scalar_iff (isScalar_reread hv)).2 (hL v _ hv h)
  | list vs ih =>
    rw [encode] at h
    exact hsequence vs ih h
  | tuple vs ih =>
    rw [encode] at h
    exact hsequence vs ih h
  | mapping fields ih =>
    have hwritten := exists_of_encode_mapping (by simp [hst]) h
    rw [reread_mapping_eq]
    refine Value.Formed.ofList SettledKey.isText (List.forall_mem_map.2 fun e he => ?_)
    obtain ⟨⟨key, hkey⟩, value, hvalue⟩ := hwritten e (mem_arranged.1 he)
    exact ⟨settledKey_rereadKey hkey, ih e (mem_arranged.1 he) hvalue⟩

theorem plain_reread {v : Value} {text : List Char} (hv : v.isScalar = true)
    (h : encode st v = .ok text) : Plain (reread st v) := by
  cases v with
  | null => exact plain_null
  | bool b => exact plain_bool b
  | int n =>
    rw [encode] at h
    exact plain_int (intLiteral_eq_ok h).1
  | float x =>
    rw [encode] at h
    exact plain_float h
  | text s => exact plain_text s
  | surrogates ps =>
    rw [reread]
    cases respelled ps with
    | string s => exact plain_text s
    | surrogates qs => exact ⟨fun _ => ⟨_, by rw [Value.ofEscaped, encode]⟩, fun _ h => by cases h⟩
  | list vs => cases hv
  | tuple vs => cases hv
  | mapping fields => cases hv
  | _ => cases h

/-- **What is read back from a document is settled.** -/
theorem settled_reread (hst : st.sorted = false) (v : Value) {text : List Char}
    (h : encode st v = .ok text) : Settled (reread st v) :=
  formed_reread hst (fun _ _ => plain_reread) h

mutual

/-- **A settled value can be written.** -/
theorem exists_encode (st : Style) :
    ∀ {v : Value}, Settled v → ∃ text, encode st v = .ok text
  | .list vs => fun h => by
    obtain ⟨texts, hvs⟩ := exists_encodeAll st vs h
    exact ⟨_, by rw [encode, hvs]; rfl⟩
  | .mapping fields => fun h => by
    have hkeys : ∀ e ∈ fields, e.1.IsText := fun e he => ((Value.formed_mapping_iff.1 h).2 e he).1.1
    rw [encode_mapping fun _ => hkeys]
    obtain ⟨parts, hparts⟩ := exists_members st.keySeparator
      ((arranged st fields).map fun e => (e.1, encode st e.2)) (by
        intro e' he'
        obtain ⟨e, he, rfl⟩ := List.mem_map.1 he'
        have he := mem_arranged.1 he
        exact ⟨hkeys e he, exists_encodeFields st fields h.2 e he⟩)
    exact ⟨_, by rw [hparts]; rfl⟩
  | .null | .bool _ | .int _ | .float _ | .text _ | .surrogates _ | .bytes _ | .date _ | .moment _
  | .tuple _ | .set _ => fun h => h.1 st

theorem exists_encodeAll (st : Style) : ∀ (vs : List Value), Value.FormedAll SettledKey Plain vs →
    ∃ texts, encodeAll st vs = .ok texts
  | [] => fun _ => ⟨[], rfl⟩
  | v :: vs => fun h => by
    obtain ⟨text, hv⟩ := exists_encode st h.1
    obtain ⟨texts, hvs⟩ := exists_encodeAll st vs h.2
    exact ⟨text :: texts, by rw [encodeAll, hv, hvs]; rfl⟩

theorem exists_encodeFields (st : Style) : ∀ (fields : List (Key × Value)),
    Value.FormedFields SettledKey Plain fields → ∀ e ∈ fields, ∃ text, encode st e.2 = .ok text
  | [] => fun _ _ he => by cases he
  | (k, v) :: fields => fun h e he => by
    rcases List.mem_cons.1 he with rfl | he
    · exact exists_encode st h.2.1
    · exact exists_encodeFields st fields h.2.2 e he

end

/-- **What stands in a value that was written** can be written. -/
theorem exists_encode_at? {st : Style} {P : Key → Prop} {L : Value → Prop}
    (hP : ∀ k, P k → k.IsText) {v w : Value} (hv : v.Formed P L) {text : List Char}
    (h : encode st v = .ok text) {ks : List Key} (hw : v.at? ks = some w) :
    ∃ text, encode st w = .ok text := by
  induction ks generalizing v text with
  | nil =>
    rw [Value.at?_nil, Option.some.injEq] at hw
    exact ⟨text, hw ▸ h⟩
  | cons k ks ih =>
    obtain ⟨fields, rfl⟩ := Value.exists_mapping_of_at? hw
    have hkeys : ∀ e ∈ fields, e.1.IsText := fun e he =>
      hP _ ((Value.formed_mapping_iff.1 hv).2 e he).1
    rw [Value.at?_mapping_cons, Option.bind_eq_some_iff] at hw
    obtain ⟨u, hu, hw⟩ := hw
    obtain ⟨-, value, hvalue⟩ := exists_of_encode_mapping (fun _ => hkeys) h _
      (Fields.mem_of_get? hkeys hu)
    exact ih (hv.get? hu) hvalue hw

/-! ## Reading in what is read back -/

theorem ofList_eq_self {es : List (Key × Value)} (hkeys : ∀ e ∈ es, e.1.IsText)
    (hnodup : (es.map Prod.fst).Nodup) : Fields.ofList es = es := by
  induction es using List.reverseRecOn with
  | nil => rfl
  | append_singleton es e ih =>
    obtain ⟨hkeys, hk⟩ := List.forall_mem_append.1 hkeys
    rw [List.map_append, List.nodup_append] at hnodup
    have hnot : e.1 ∉ es.map Prod.fst := fun hmem =>
      hnodup.2.2 _ hmem _ (List.mem_singleton_self _) rfl
    rw [Fields.ofList, List.foldl_append, ← Fields.ofList, ih hkeys hnodup.1, List.foldl_cons,
      List.foldl_nil, Fields.put_of_notMem (hk e (List.mem_singleton_self _)) _ hnot]

variable {L : Value → Prop}

theorem reread_mapping {fields : Fields} (h : (Value.mapping fields).Formed SettledKey L) :
    reread st (.mapping fields) =
      .mapping ((arranged st fields).map fun e => (e.1, reread st e.2)) := by
  rw [Value.formed_mapping_iff] at h
  have hsettled : ∀ e ∈ arranged st fields, SettledKey e.1 := fun e he =>
    (h.2 e (mem_arranged.1 he)).1
  have hmap : ((arranged st fields).map fun e => (rereadKey e.1, reread st e.2)) =
      (arranged st fields).map fun e => (e.1, reread st e.2) :=
    List.map_congr_left fun e he => by rw [(hsettled e he).2]
  rw [reread_mapping_eq, hmap, ofList_eq_self]
  · exact List.forall_mem_map.2 fun e he => (hsettled e he).1
  · rw [List.map_map]
    exact ((perm_arranged fields).map _).nodup_iff.2 h.1

theorem get?_reread {fields : Fields} (h : (Value.mapping fields).Formed SettledKey L) (k : Key) :
    Fields.get? ((arranged st fields).map fun e => (e.1, reread st e.2)) k =
      (Fields.get? fields k).map (reread st) := by
  rw [Value.formed_mapping_iff] at h
  rw [Fields.get?_map,
    Fields.get?_perm (perm_arranged fields) (fun e he => (h.2 e he).1.1) h.1]

theorem isMapping_reread (v : Value) : (reread st v).isMapping = v.isMapping := by
  cases v with
  | surrogates ps =>
    rw [reread]
    cases respelled ps <;> rfl
  | _ => rfl

/-- **Reading back keeps what stands along every sequence of keys.** -/
theorem at?_reread {v : Value} (h : v.Formed SettledKey L) (ks : List Key) :
    (reread st v).at? ks = (v.at? ks).map (reread st) := by
  induction ks generalizing v with
  | nil => rw [Value.at?_nil, Value.at?_nil, Option.map_some]
  | cons k ks ih =>
    cases hv : v.isMapping with
    | false =>
      have hreread : (reread st v).isMapping = false := by rwa [isMapping_reread]
      rw [Value.at?_cons_of_not_mapping hv, Value.at?_cons_of_not_mapping hreread, Option.map_none]
    | true =>
      obtain ⟨fields, rfl⟩ := Value.isMapping_eq_true_iff.1 hv
      rw [reread_mapping h, Value.at?_mapping_cons, Value.at?_mapping_cons, get?_reread h]
      cases hget : Fields.get? fields k with
      | none => rfl
      | some w => exact ih (h.get? hget)

/-- **The leaves of what is read back** are the leaves, read back. -/
theorem leaf_reread_iff {v w : Value} (h : v.Formed SettledKey L) {ks : List Key} :
    (reread st v).Leaf ks w ↔ ∃ u, v.Leaf ks u ∧ w = reread st u := by
  simp only [Value.Leaf, at?_reread h, Option.map_eq_some_iff]
  constructor
  · rintro ⟨⟨u, hu, rfl⟩, hw⟩
    exact ⟨u, ⟨hu, by rwa [isMapping_reread] at hw⟩, rfl⟩
  · rintro ⟨u, ⟨hu, hmapping⟩, rfl⟩
    exact ⟨⟨u, hu, rfl⟩, by rwa [isMapping_reread]⟩

/-- **Every leaf that is read back was written**, at keys that read back as its keys. -/
theorem exists_of_leaf_reread (hst : st.sorted = false) {v w : Value} {text : List Char}
    (h : encode st v = .ok text) {ks : List Key} (hw : (reread st v).Leaf ks w) :
    ∃ ls u, v.Leads ls u ∧ u.isMapping = false ∧ ks = ls.map rereadKey ∧ w = reread st u := by
  induction ks generalizing v text with
  | nil =>
    obtain ⟨rfl, hmapping⟩ := Value.leaf_nil_iff.1 hw
    exact ⟨[], v, .here v, by rwa [isMapping_reread] at hmapping, rfl, rfl⟩
  | cons k ks ih =>
    have hmapping : v.isMapping = true := by
      rw [← @isMapping_reread st, Value.isMapping_eq_true_iff]
      exact Value.exists_mapping_of_at? hw.1
    obtain ⟨fields, rfl⟩ := Value.isMapping_eq_true_iff.1 hmapping
    have hwritten := exists_of_encode_mapping (by simp [hst]) h
    have hkeys : ∀ e ∈ (arranged st fields).map fun e => (rereadKey e.1, reread st e.2),
        e.1.IsText := by
      refine List.forall_mem_map.2 fun e he => ?_
      obtain ⟨⟨key, hkey⟩, -⟩ := hwritten e (mem_arranged.1 he)
      exact (settledKey_rereadKey hkey).1
    -- the entry that is found goes back to one that was written
    rw [reread_mapping_eq] at hw
    obtain ⟨u, hu, hw⟩ := Value.leaf_cons_iff.1 hw
    have hmem := Fields.mem_of_get? (fun e he => hkeys e (Fields.mem_ofList hkeys he)) hu
    obtain ⟨e, he, heq⟩ := List.mem_map.1 (Fields.mem_ofList hkeys hmem)
    cases heq
    obtain ⟨-, value, hvalue⟩ := hwritten e (mem_arranged.1 he)
    obtain ⟨ls, u, hleads, hleaf, rfl, rfl⟩ := ih hvalue hw
    exact ⟨e.1 :: ls, u, .entry (mem_arranged.1 he) hleads, hleaf, rfl, rfl⟩

end

end Json

end MetricDocs
