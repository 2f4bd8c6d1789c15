import Provision.Binary.Arithmetic

/-!
# Agreement of numbers

Two patterns agree if they are the same or both not a number.  Sums of operands that agree agree, in
either order: which of two patterns without a value is passed on is the only thing that the order
decides.
-/

namespace Provision
namespace Binary
namespace Pattern

variable {f : Format} {x y : Pattern f}

/-- Patterns are the same, but for the one of two that are not numbers. -/
def Agree (x y : Pattern f) : Prop :=
  x = y ∨ (x.isNaN = true ∧ y.isNaN = true)

theorem Agree.refl (x : Pattern f) : Agree x x :=
  Or.inl rfl

theorem magnitude_le_quiet (x : Pattern f) : x.magnitude ≤ x.quiet.magnitude := by
  have hsignBit : exists n, f.signBit = 2 ^ n := by
    cases f
    · exact ⟨31, by decide⟩
    · exact ⟨63, by decide⟩
  rcases hsignBit with ⟨n, hn⟩
  unfold magnitude quiet
  rw [BitVec.toNat_or, hn, Nat.or_mod_two_pow]
  exact Nat.left_le_or

theorem isNaN_quiet (h : x.isNaN = true) : x.quiet.isNaN = true := by
  have hle := magnitude_le_quiet x
  unfold isNaN at *
  rw [decide_eq_true_iff] at *
  exact Nat.lt_of_lt_of_le h hle

theorem isNaN_add_of_left (h : x.isNaN = true) (y : Pattern f) : (x.add y).isNaN = true := by
  unfold add orNaN
  rw [if_pos h]
  exact isNaN_quiet h

theorem isNaN_add_of_right (x : Pattern f) (h : y.isNaN = true) : (x.add y).isNaN = true := by
  unfold add orNaN
  by_cases hx : x.isNaN = true
  · rw [if_pos hx]
    exact isNaN_quiet hx
  · rw [if_neg hx, if_pos h]
    exact isNaN_quiet h

/-- The order of a sum matters only if neither operand is a number. -/
theorem agree_add_comm (x y : Pattern f) : Agree (x.add y) (y.add x) := by
  cases hx : x.isNaN with
  | false => exact Or.inl (Pattern.add_comm (Or.inl hx))
  | true => exact Or.inr ⟨isNaN_add_of_left hx y, isNaN_add_of_right y hx⟩

theorem Agree.add_swap (h : Agree x y) (z : Pattern f) : Agree (z.add x) (y.add z) := by
  rcases h with rfl | ⟨hx, hy⟩
  · exact agree_add_comm z x
  · exact Or.inr ⟨isNaN_add_of_right z hx, isNaN_add_of_left hy z⟩

end Pattern
end Binary
end Provision
