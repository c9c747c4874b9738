/-
  What no document can hold.

  * `Part` and `Value.parts`: the keys and values in a tree, depth first, a key before its value;
  * `Part.offence?`: what is wrong with a part by itself;
  * `refusal?_bind`: the first of two steps that fails gives the failure of both;
  * `refusal?_encode`: a value is refused for the first of its parts that offends, and for nothing
    else.
-/
import MetricDocs.Proofs.Json.Canonical

namespace MetricDocs

/-! ## The parts of a value -/

/-- A key or a value that stands in a tree. -/
inductive Part where
  | key (k : Key)
  | value (v : Value)

mutual

/-- The value and the parts inside it, depth first, a key before its value; the members of a set
    and the parts of a key that is a tuple do not count. -/
def Value.parts : Value → List Part
  | .list vs => .value (.list vs) :: Value.partsAll vs
  | .tuple vs => .value (.tuple vs) :: Value.partsAll vs
  | .mapping fields => .value (.mapping fields) :: Value.partsFields fields
  | v => [.value v]

/-- The parts of values one after another. -/
def Value.partsAll : List Value → List Part
  | [] => []
  | v :: vs => v.parts ++ Value.partsAll vs

/-- The parts of entries one after another. -/
def Value.partsFields : List (Key × Value) → List Part
  | [] => []
  | (k, v) :: fields => .key k :: v.parts ++ Value.partsFields fields

end

namespace Part

/-- A part as it comes from outside: no integer of more than 4300 digits, and no text in which
    surrogates stand. -/
def Ordinary : Part → Prop
  | key (.int n) | value (.int n) => (Decimal.natDigits n.natAbs).length ≤ 4300
  | key (.surrogates _) | value (.surrogates _) => False
  | _ => True

/-- What is wrong with a part by itself: a double that is not finite, a key that is neither text nor
    number nor truth value nor null, or a value that is none of these, no sequence and no mapping. -/
def offence? : Part → Option Failure
  | key (.float x) | value (.float x) => if x.isFinite then none else some .notFinite
  | key .null | key (.bool _) | key (.int _) | key (.text _) | key (.surrogates _) => none
  | key k => some (.badKey k.kindName)
  | value .null | value (.bool _) | value (.int _) | value (.text _) | value (.surrogates _) => none
  | value (.list _) | value (.tuple _) | value (.mapping _) => none
  | value v => some (.notEncodable v.shortKindName)

end Part

theorem Value.parts_scalar {v : Value} (h : v.isScalar = true) : v.parts = [.value v] := by
  cases v <;> first | rfl | cases h

/-! ## The first failure -/

namespace Json

/-- The failure in a result. -/
def refusal? {α : Type} : Except Failure α → Option Failure
  | .error f => some f
  | .ok _ => none

section
variable {α β : Type}

@[simp] theorem refusal?_ok (a : α) : refusal? (.ok a) = none := rfl

@[simp] theorem refusal?_error (f : Failure) : refusal? (.error f : Except Failure α) = some f := rfl

@[simp] theorem refusal?_map (g : α → β) (x : Except Failure α) :
    refusal? (x.map g) = refusal? x := by
  cases x <;> rfl

/-- **Of two steps** the first that fails gives the failure of both. -/
theorem refusal?_bind {x : Except Failure α} {g : α → Except Failure β} {second : Option Failure}
    (h : ∀ a, refusal? (g a) = second) : refusal? (x >>= g) = (refusal? x).or second := by
  cases x with
  | error f => rfl
  | ok a => exact h a

@[simp] theorem refusal?_bind_pure (x : Except Failure α) (g : α → β) :
    refusal? (x >>= fun a => pure (g a)) = refusal? x := by
  cases x <;> rfl

end

theorem refusal?_intLiteral {n : ℤ} (h : (Decimal.natDigits n.natAbs).length ≤ 4300) :
    refusal? (intLiteral n) = none := by
  have hlong : Decimal.tooLong n = false := by
    rw [← show Decimal.maxDigits = 4300 from rfl] at h
    rw [Decimal.tooLong, decide_eq_false_iff_not, ge_iff_le, not_le, Nat.pow_eq]
    generalize Decimal.maxDigits = k at h ⊢
    exact (Decimal.lt_pow_length n.natAbs).trans_le (Nat.pow_le_pow_right (by decide) h)
  rw [intLiteral, hlong]
  rfl

theorem refusal?_floatLiteral (x : Float) :
    refusal? (floatLiteral x) = if x.isFinite then none else some .notFinite := by
  have hfinite := Decimal.isFinite_iff x
  rw [floatLiteral]
  cases hx : Decimal.magnitude x <;> simp_all

theorem refusal?_keyLiteral {k : Key} (h : (Part.key k).Ordinary) :
    refusal? (keyLiteral k) = (Part.key k).offence? := by
  cases k with
  | int n =>
    have hliteral : keyLiteral (.int n) = ((intLiteral n).map String.ofList).map literal := rfl
    rw [hliteral, refusal?_map, refusal?_map, refusal?_intLiteral h]
    rfl
  | float x =>
    have hliteral : keyLiteral (.float x) = ((floatLiteral x).map String.ofList).map literal := rfl
    rw [hliteral, refusal?_map, refusal?_map, refusal?_floatLiteral]
    rfl
  | surrogates ps => exact h.elim
  | _ => rfl

section
variable {st : Style}

theorem refusal?_scalar {v : Value} (hv : v.isScalar = true) (h : (Part.value v).Ordinary) :
    refusal? (encode st v) = (Part.value v).offence? := by
  cases v with
  | int n =>
    rw [encode, refusal?_intLiteral h]
    rfl
  | float x =>
    rw [encode, refusal?_floatLiteral]
    rfl
  | list vs | tuple vs | mapping fields => cases hv
  | _ => rfl

theorem refusal?_encodeAll {vs : List Value}
    (hitem : ∀ v ∈ vs, (∀ p ∈ v.parts, p.Ordinary) →
      refusal? (encode st v) = v.parts.findSome? Part.offence?)
    (h : ∀ p ∈ Value.partsAll vs, p.Ordinary) :
    refusal? (encodeAll st vs) = (Value.partsAll vs).findSome? Part.offence? := by
  induction vs with
  | nil => rfl
  | cons v vs ih =>
    obtain ⟨hv, hvs⟩ := List.forall_mem_append.1 h
    obtain ⟨hfirst, hrest⟩ := List.forall_mem_cons.1 hitem
    rw [encodeAll, Value.partsAll, List.findSome?_append, ← hfirst hv, ← ih hrest hvs]
    exact refusal?_bind fun text => refusal?_bind_pure _ _

/-- Entries are refused for the first of their keys and the parts of their values that offends, if
    the values are. -/
theorem refusal?_members {sep : List Char} {fields : List (Key × Value)}
    (hvalue : ∀ e ∈ fields, (∀ p ∈ e.2.parts, p.Ordinary) →
      refusal? (encode st e.2) = e.2.parts.findSome? Part.offence?)
    (h : ∀ p ∈ Value.partsFields fields, p.Ordinary) :
    refusal? (members sep (fields.map fun e => (e.1, encode st e.2))) =
      (Value.partsFields fields).findSome? Part.offence? := by
  induction fields with
  | nil => rfl
  | cons e fields ih =>
    obtain ⟨k, v⟩ := e
    obtain ⟨hentry, hfields⟩ := List.forall_mem_append.1 h
    obtain ⟨hk, hv⟩ := List.forall_mem_cons.1 hentry
    obtain ⟨hfirst, hrest⟩ := List.forall_mem_cons.1 hvalue
    have hparts : (Part.key k :: v.parts).findSome? Part.offence? =
        (refusal? (keyLiteral k)).or (refusal? (encode st v)) := by
      rw [refusal?_keyLiteral hk, hfirst hv, List.findSome?_cons]
      cases (Part.key k).offence? <;> rfl
    rw [Value.partsFields, List.findSome?_append, hparts, ← ih hrest hfields, Option.or_assoc]
    -- the key first, then the value, then the other entries
    exact refusal?_bind fun key => refusal?_bind fun value => refusal?_bind_pure _ _

/-- **A value is refused for the first of its parts that offends**, and for nothing else. -/
theorem refusal?_encode (hst : st.sorted = false) {v : Value} (h : ∀ p ∈ v.parts, p.Ordinary) :
    refusal? (encode st v) = v.parts.findSome? Part.offence? := by
  induction v using Value.inductionOn with
  | scalar v hv =>
    rw [Value.parts_scalar hv] at h ⊢
    rw [refusal?_scalar hv (h _ (List.mem_singleton_self _)), List.findSome?_singleton]
  | list vs ih =>
    rw [encode, refusal?_map]
    exact refusal?_encodeAll ih (List.forall_mem_cons.1 h).2
  | tuple vs ih =>
    rw [encode, refusal?_map]
    exact refusal?_encodeAll ih (List.forall_mem_cons.1 h).2
  | mapping fields ih =>
    rw [encode_mapping (by simp [hst]), refusal?_map, arranged_of_unsorted hst]
    exact refusal?_members ih (List.forall_mem_cons.1 h).2

end

end Json

end MetricDocs
