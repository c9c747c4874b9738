/-
  Equality of doubles.

  `x == y` compares what two doubles are worth: zeros are equal whatever their sign, and what is no
  number is equal to nothing, not even itself.

  * `beq_eq_true_iff`: two doubles are equal iff they are one and the same number, or both zero;
  * `beq_symm` and `beq_trans`: so equality is symmetric and transitive, and `beq_self`: a number
    equals itself.
-/
import Mathlib

namespace MetricDocs.Decimal

open Float.Model

/-- **Two doubles are equal** iff they are one and the same number, or both zero. -/
theorem beq_eq_true_iff {u v : UnpackedFloat} : u.beq v = true ↔
    u = v ∧ u ≠ .notANumber ∨ (∃ s, u = .zero s) ∧ ∃ s, v = .zero s := by
  cases u with
  | notANumber => cases v <;> simp [UnpackedFloat.beq, UnpackedFloat.compare]
  | infinity s =>
    cases s <;> rcases v with ⟨_ | _⟩ | _ | _ | _ <;>
      simp [UnpackedFloat.beq, UnpackedFloat.compare, compare]
  | zero s =>
    rcases v with ⟨_ | _⟩ | _ | _ | ⟨_ | _⟩ <;> simp [UnpackedFloat.beq, UnpackedFloat.compare]
  | finite s m e hm =>
    cases s <;> rcases v with ⟨_ | _⟩ | _ | _ | ⟨_ | _⟩ <;>
      simp [UnpackedFloat.beq, UnpackedFloat.compare, Ordering.then_eq_eq, and_comm]

theorem beq_self {u : UnpackedFloat} (hu : u ≠ .notANumber) : u.beq u = true :=
  beq_eq_true_iff.2 (.inl ⟨rfl, hu⟩)

theorem beq_symm {x y : Float} (h : (x == y) = true) : (y == x) = true := by
  rcases beq_eq_true_iff.1 h with ⟨heq, hne⟩ | ⟨hx, hy⟩
  · exact beq_eq_true_iff.2 (.inl ⟨heq.symm, heq ▸ hne⟩)
  · exact beq_eq_true_iff.2 (.inr ⟨hy, hx⟩)

theorem beq_trans {x y z : Float} (hxy : (x == y) = true) (hyz : (y == z) = true) :
    (x == z) = true := by
  rcases beq_eq_true_iff.1 hxy with ⟨heq, -⟩ | ⟨hx, hy⟩
  · exact beq_eq_true_iff.2 (heq ▸ beq_eq_true_iff.1 hyz)
  · rcases beq_eq_true_iff.1 hyz with ⟨heq, -⟩ | ⟨-, hz⟩
    · exact beq_eq_true_iff.2 (.inr ⟨hx, heq ▸ hy⟩)
    · exact beq_eq_true_iff.2 (.inr ⟨hx, hz⟩)

end MetricDocs.Decimal
