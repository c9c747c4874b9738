/-
  Sameness of keys.

  Keys are told apart by what they are worth: `1`, `1.0` and true are the same key, and a double
  that is no number is the same key as nothing, not even itself.

  * `Key.same_symm` and `Key.same_trans`: being the same key is symmetric and transitive, though not
    reflexive;
  * `Fields.Distinct`: no two entries have the same key;
  * `Fields.get?_congr`: lookups of the same key agree;
  * `Fields.get?_put_of_same` and `Fields.get?_put_of_not_same`: lookups after a write;
  * `Fields.put_eq_self`: setting a key to the value it has changes nothing;
  * `Fields.keys_put_of_get?` and `Fields.put_of_get?_eq_none`: a write keeps the keys, or adds its
    own entry behind the others.
-/
import MetricDocs.Proofs.Decimal.Equality
import MetricDocs.Value.Basic

namespace MetricDocs

/-! ## Numbers -/

/-- Whether two numbers are the same key. -/
def Number.Same : Number → Number → Prop
  | .whole m, .whole n => m = n
  | .fraction x, .fraction y => (x == y) = true
  | _, _ => False

theorem Number.Same.symm {m n : Number} (h : m.Same n) : n.Same m := by
  cases m <;> cases n <;> try exact False.elim h
  · exact Eq.symm h
  · exact Decimal.beq_symm h

theorem Number.Same.trans {l m n : Number} (h : l.Same m) (h' : m.Same n) : l.Same n := by
  cases l <;> cases m <;> try exact False.elim h
  · cases n
    · exact Eq.trans h h'
    · exact False.elim h'
  · cases n
    · exact False.elim h'
    · exact Decimal.beq_trans h h'

theorem Key.same_iff_of_number {k l : Key} {m : Number} (hk : k.number? = some m) :
    k.same l = true ↔ ∃ n, l.number? = some n ∧ m.Same n := by
  -- the last branch is the one about numbers
  unfold Key.same
  split
  case h_8 =>
    rw [hk]
    rcases l.number? with _ | ⟨n | y⟩ <;> cases m <;> simp [Number.Same]
  all_goals cases hk

/-! ## Moments -/

theorem Moment.same_eq_true_iff {s t : Moment} : s.same t = true ↔
    (∃ p q, s.offset = some p ∧ t.offset = some q ∧ s.seconds - p = t.seconds - q ∧
      s.micros = t.micros) ∨ s.offset = none ∧ s = t := by
  rw [Moment.same]
  constructor
  · intro h
    split at h
    · rename_i p q hs ht
      rw [Bool.and_eq_true, decide_eq_true_eq, decide_eq_true_eq] at h
      exact .inl ⟨p, q, hs, ht, h⟩
    · rename_i hs ht
      exact .inr ⟨hs, of_decide_eq_true h⟩
    · cases h
  · rintro (⟨p, q, hs, ht, h⟩ | ⟨hs, rfl⟩)
    · simp [hs, ht, h]
    · simp [hs]

theorem Moment.Same.symm {s t : Moment} (h : s.same t = true) : t.same s = true := by
  rw [Moment.same_eq_true_iff] at h ⊢
  rcases h with ⟨p, q, hs, ht, hseconds, hmicros⟩ | ⟨hs, rfl⟩
  · exact .inl ⟨q, p, ht, hs, hseconds.symm, hmicros.symm⟩
  · exact .inr ⟨hs, rfl⟩

theorem Moment.Same.trans {s t u : Moment} (h : s.same t = true) (h' : t.same u = true) :
    s.same u = true := by
  rw [Moment.same_eq_true_iff] at h h' ⊢
  rcases h with ⟨p, q, hs, ht, hseconds, hmicros⟩ | ⟨hs, rfl⟩
  · rcases h' with ⟨q', r, ht', hu, hseconds', hmicros'⟩ | ⟨ht', rfl⟩
    · rw [ht, Option.some.injEq] at ht'
      subst ht'
      exact .inl ⟨p, r, hs, hu, hseconds.trans hseconds', hmicros.trans hmicros'⟩
    · rw [ht] at ht'
      cases ht'
  · exact h'

/-! ## Keys -/

/-- A key that is neither a number nor a moment nor a tuple. -/
def Key.isPlain : Key → Bool
  | .null | .text _ | .surrogates _ | .bytes _ | .date _ => true
  | _ => false

theorem Key.same_iff_of_isPlain {k : Key} (hk : k.isPlain = true) (l : Key) :
    k.same l = true ↔ k = l := by
  cases k with
  | null | text | surrogates | bytes | date =>
    cases l <;> simp [Key.same, Key.number?]
  | _ => cases hk

theorem Key.same_moment_iff {s : Moment} {l : Key} :
    (Key.moment s).same l = true ↔ ∃ t, l = .moment t ∧ s.same t = true := by
  cases l <;> simp [Key.same, Key.number?]

theorem Key.same_tuple_iff {ks : List Key} {l : Key} :
    (Key.tuple ks).same l = true ↔ ∃ ls, l = .tuple ls ∧ Key.sameAll ks ls = true := by
  cases l <;> simp [Key.same, Key.number?]

theorem Key.kind_cases (k : Key) : k.isPlain = true ∨ (∃ m, k.number? = some m) ∨
    (∃ s, k = .moment s) ∨ ∃ ks, k = .tuple ks := by
  cases k with
  | float x =>
    refine .inr (.inl ?_)
    rw [Key.number?]
    split <;> exact ⟨_, rfl⟩
  | _ => simp [Key.isPlain, Key.number?]

theorem Key.same_symm_of_atom {k l : Key} (hk : ∀ ks, k ≠ .tuple ks) (h : k.same l = true) :
    l.same k = true := by
  rcases k.kind_cases with hplain | ⟨m, hm⟩ | ⟨s, rfl⟩ | ⟨ks, rfl⟩
  · obtain rfl := (Key.same_iff_of_isPlain hplain l).1 h
    exact h
  · obtain ⟨n, hn, hmn⟩ := (Key.same_iff_of_number hm).1 h
    exact (Key.same_iff_of_number hn).2 ⟨m, hm, hmn.symm⟩
  · obtain ⟨t, rfl, hst⟩ := Key.same_moment_iff.1 h
    exact Key.same_moment_iff.2 ⟨s, rfl, Moment.Same.symm hst⟩
  · exact absurd rfl (hk ks)

theorem Key.same_trans_of_atom {k l m : Key} (hk : ∀ ks, k ≠ .tuple ks) (h : k.same l = true)
    (h' : l.same m = true) : k.same m = true := by
  rcases k.kind_cases with hplain | ⟨n, hn⟩ | ⟨s, rfl⟩ | ⟨ks, rfl⟩
  · rwa [(Key.same_iff_of_isPlain hplain l).1 h]
  · obtain ⟨n', hn', hsame⟩ := (Key.same_iff_of_number hn).1 h
    obtain ⟨n'', hn'', hsame'⟩ := (Key.same_iff_of_number hn').1 h'
    exact (Key.same_iff_of_number hn).2 ⟨n'', hn'', hsame.trans hsame'⟩
  · obtain ⟨t, rfl, hst⟩ := Key.same_moment_iff.1 h
    obtain ⟨u, rfl, htu⟩ := Key.same_moment_iff.1 h'
    exact Key.same_moment_iff.2 ⟨u, rfl, Moment.Same.trans hst htu⟩
  · exact absurd rfl (hk ks)

mutual

/-- **Being the same key is symmetric.** -/
theorem Key.same_symm : ∀ {k l : Key}, k.same l = true → l.same k = true
  | .tuple ks, l => fun h => by
    obtain ⟨ls, rfl, hall⟩ := Key.same_tuple_iff.1 h
    exact Key.same_tuple_iff.2 ⟨ks, rfl, Key.sameAll_symm hall⟩
  | .null, _ | .bool _, _ | .int _, _ | .float _, _ | .text _, _ | .surrogates _, _ | .bytes _, _
  | .date _, _ | .moment _, _ => Key.same_symm_of_atom nofun

theorem Key.sameAll_symm : ∀ {ks ls : List Key}, Key.sameAll ks ls = true →
    Key.sameAll ls ks = true
  | [], [] => fun _ => rfl
  | k :: ks, l :: ls => fun h => by
    rw [Key.sameAll, Bool.and_eq_true] at h ⊢
    exact ⟨Key.same_symm h.1, Key.sameAll_symm h.2⟩
  | [], _ :: _ | _ :: _, [] => fun h => nomatch h

end

mutual

/-- **Being the same key is transitive.** -/
theorem Key.same_trans : ∀ {k l m : Key}, k.same l = true → l.same m = true → k.same m = true
  | .tuple ks, l, m => fun h h' => by
    obtain ⟨ls, rfl, hall⟩ := Key.same_tuple_iff.1 h
    obtain ⟨ms, rfl, hall'⟩ := Key.same_tuple_iff.1 h'
    exact Key.same_tuple_iff.2 ⟨ms, rfl, Key.sameAll_trans hall hall'⟩
  | .null, _, _ | .bool _, _, _ | .int _, _, _ | .float _, _, _ | .text _, _, _
  | .surrogates _, _, _ | .bytes _, _, _ | .date _, _, _ | .moment _, _, _ =>
    Key.same_trans_of_atom nofun

theorem Key.sameAll_trans : ∀ {ks ls ms : List Key}, Key.sameAll ks ls = true →
    Key.sameAll ls ms = true → Key.sameAll ks ms = true
  | [], [], _ => fun _ h => h
  | k :: ks, l :: ls, m :: ms => fun h h' => by
    rw [Key.sameAll, Bool.and_eq_true] at h h' ⊢
    exact ⟨Key.same_trans h.1 h'.1, Key.sameAll_trans h.2 h'.2⟩
  | _ :: _, _ :: _, [] => fun _ h => nomatch h
  | [], _ :: _, _ | _ :: _, [], _ => fun h => nomatch h

end

/-! ## Entries -/

namespace Fields

/-- No two entries have the same key. -/
def Distinct (fields : Fields) : Prop := fields.Pairwise fun e f => e.1.same f.1 = false

instance (fields : Fields) : Decidable (Distinct fields) :=
  inferInstanceAs (Decidable (fields.Pairwise fun e f => e.1.same f.1 = false))

variable {α : Type} {fields : List (Key × α)} {k l : Key} {v w : α}

theorem get?_cons (l : Key) (v : α) (fields : List (Key × α)) (k : Key) :
    get? ((l, v) :: fields) k = if l.same k then some v else get? fields k := rfl

theorem get?_eq_none_iff_same : get? fields k = none ↔ ∀ e ∈ fields, e.1.same k = false := by
  induction fields with
  | nil => simp [get?]
  | cons e fields ih =>
    obtain ⟨l, w⟩ := e
    rw [get?_cons, List.forall_mem_cons, ← ih]
    cases l.same k <;> simp

theorem get?_congr (h : k.same l = true) (fields : List (Key × α)) :
    get? fields k = get? fields l := by
  induction fields with
  | nil => rfl
  | cons e fields ih =>
    obtain ⟨m, w⟩ := e
    have hiff : m.same k = m.same l := by
      rw [Bool.eq_iff_iff]
      exact ⟨fun hk => Key.same_trans hk h, fun hl => Key.same_trans hl (Key.same_symm h)⟩
    rw [get?_cons, get?_cons, hiff, ih]

theorem get?_put_of_same (h : k.same l = true) (v : α) :
    ∀ fields : List (Key × α), get? (put fields k v) l = some v
  | [] => by rw [put, get?_cons, if_pos h]
  | (m, w) :: fields => by
    rw [put]
    by_cases hk : m.same k = true
    · rw [if_pos hk, get?_cons, if_pos (Key.same_trans hk h)]
    · have hl : ¬ m.same l = true := fun hl => hk (Key.same_trans hl (Key.same_symm h))
      rw [if_neg hk, get?_cons, if_neg hl, get?_put_of_same h v fields]

theorem get?_put_of_not_same (h : k.same l = false) (v : α) :
    ∀ fields : List (Key × α), get? (put fields k v) l = get? fields l
  | [] => by
    rw [put, get?_cons, h]
    rfl
  | (m, w) :: fields => by
    rw [put]
    by_cases hk : m.same k = true
    · have hl : ¬ m.same l = true := by
        intro hl
        rw [Key.same_trans (Key.same_symm hk) hl] at h
        cases h
      rw [if_pos hk, get?_cons, get?_cons, if_neg hl, if_neg hl]
    · rw [if_neg hk, get?_cons, get?_cons, get?_put_of_not_same h v fields]

theorem put_eq_self : ∀ {fields : List (Key × α)}, get? fields k = some v → put fields k v = fields
  | (l, w) :: fields, h => by
    rw [get?_cons] at h
    rw [put]
    split_ifs at h ⊢ with hl
    · rw [Option.some.inj h]
    · rw [put_eq_self h]

theorem keys_put_of_get? : ∀ {fields : List (Key × α)} {w : α}, get? fields k = some w →
    (put fields k v).map Prod.fst = fields.map Prod.fst
  | (l, u) :: fields, w, h => by
    rw [get?_cons] at h
    rw [put]
    split_ifs at h ⊢ with hl
    · rfl
    · rw [List.map_cons, keys_put_of_get? h]
      rfl

theorem put_of_get?_eq_none : ∀ {fields : List (Key × α)}, get? fields k = none →
    put fields k v = fields ++ [(k, v)]
  | [], _ => rfl
  | (l, u) :: fields, h => by
    rw [get?_cons] at h
    rw [put]
    split_ifs at h ⊢ with hl
    rw [put_of_get?_eq_none h]
    rfl

end Fields

end MetricDocs
