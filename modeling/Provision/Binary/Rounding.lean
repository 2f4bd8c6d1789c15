import Provision.Binary.Format

/-!
# Rounding to nearest

A nonnegative rational number of units is rounded to the nearest number of a format, a tie going
to the even one; what lies beyond the greatest finite number becomes infinite.
-/

namespace Provision
namespace Binary

/-- Nearest integer to the quotient, a tie going to the even one. -/
def nearestInt (num den : Nat) : Nat :=
  let quotient := num / den
  let rest := 2 * (num % den)
  if rest < den then quotient
  else if den < rest then quotient + 1
  else if quotient % 2 = 0 then quotient
  else quotient + 1

/-- How many binary places of a whole number of units do not fit the significand. -/
def excess (f : Format) (units : Nat) : Nat :=
  Nat.log2 units - f.fraction

/-- Magnitude of the number of format `f` nearest to `num / den` units.  A significand that
rounds up to the next power of two carries into the exponent field by itself. -/
def nearest (f : Format) (num den : Nat) : Nat :=
  let shift := excess f (num / den)
  let significand := nearestInt num (den * 2 ^ shift)
  min (shift * 2 ^ f.fraction + significand) f.infinity

/-- The signed number of format `f` nearest to `num / den` units. -/
def round (f : Format) (negative : Bool) (num den : Nat) : Pattern f :=
  .make f negative (nearest f num den)

/-! ## Laws -/

/-- The nearest integer is at most one half away. -/
theorem nearestInt_mul_le (num den : Nat) : 2 * (den * nearestInt num den) ≤ 2 * num + den := by
  have hsplit : den * (num / den) + num % den = num := Nat.div_add_mod num den
  simp only [nearestInt]
  split
  · omega
  · split
    · rw [Nat.mul_add]
      omega
    · split
      · omega
      · rw [Nat.mul_add]
        omega

theorem le_nearestInt_mul (num : Nat) {den : Nat} (h : 0 < den) :
    2 * num ≤ 2 * (den * nearestInt num den) + den := by
  have hsplit : den * (num / den) + num % den = num := Nat.div_add_mod num den
  have hrest : num % den < den := Nat.mod_lt num h
  simp only [nearestInt]
  split
  · omega
  · split
    · rw [Nat.mul_add]
      omega
    · split
      · omega
      · rw [Nat.mul_add]
        omega

theorem even_nearestInt {num den : Nat} (h : 2 * (num % den) = den) :
    nearestInt num den % 2 = 0 := by
  simp only [nearestInt, h, Nat.lt_irrefl, if_false]
  split
  · assumption
  · omega

end Binary
end Provision
