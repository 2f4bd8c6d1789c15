/-!
# Binary floating-point formats

A number of a binary format is its bit pattern.  Every finite number is an integer multiple of the
format's least positive number, so a pattern denotes a sign together with a natural number of
those units, an infinity, or not a number.
-/

namespace Provision

-- Powers of numbers are those of the core library, whatever other powers are in scope.
attribute [scoped instance (10000)] instPowNat
attribute [default_instance 10001] instPowNat

namespace Binary

inductive Format where
  | single
  | double
  deriving DecidableEq, Repr, Inhabited

namespace Format

/-- Number of bits of a pattern. -/
abbrev bits : Format -> Nat
  | single => 32
  | double => 64

/-- Number of stored significand bits. -/
def fraction : Format -> Nat
  | single => 23
  | double => 52

/-- The least positive number is two to the power of minus this. -/
def scale : Format -> Nat
  | single => 149
  | double => 1074

/-- Pattern of positive infinity: the least pattern that is no finite number. -/
def infinity (f : Format) : Nat :=
  2 ^ (f.bits - 1) - 2 ^ f.fraction

/-- Pattern of the sign bit alone. -/
def signBit (f : Format) : Nat :=
  2 ^ (f.bits - 1)

end Format

/-- A pattern of format `f`. -/
abbrev Pattern (f : Format) :=
  BitVec f.bits

/-- What a pattern stands for; a finite number counts units. -/
inductive Datum where
  | nan
  | infinite (negative : Bool)
  | finite (negative : Bool) (units : Nat)
  deriving DecidableEq, Repr

namespace Datum

/-- The opposite number. -/
def negate : Datum -> Datum
  | nan => nan
  | infinite negative => infinite !negative
  | finite negative units => finite (!negative) units

end Datum

namespace Pattern

/-- The pattern without its sign. -/
def magnitude {f : Format} (x : Pattern f) : Nat :=
  x.toNat % f.signBit

def negative {f : Format} (x : Pattern f) : Bool :=
  x.msb

/-- Units of the pattern of a finite magnitude: subnormal patterns count them, and each further
exponent doubles what the fraction counts. -/
def unitsOf (f : Format) (magnitude : Nat) : Nat :=
  let exponent := magnitude / 2 ^ f.fraction
  let fraction := magnitude % 2 ^ f.fraction
  if exponent = 0 then fraction else (2 ^ f.fraction + fraction) * 2 ^ (exponent - 1)

def datum {f : Format} (x : Pattern f) : Datum :=
  if f.infinity < x.magnitude then .nan
  else if x.magnitude = f.infinity then .infinite x.negative
  else .finite x.negative (unitsOf f x.magnitude)

def isNaN {f : Format} (x : Pattern f) : Bool :=
  decide (f.infinity < x.magnitude)

/-- The pattern with the given sign and magnitude. -/
def make (f : Format) (negative : Bool) (magnitude : Nat) : Pattern f :=
  BitVec.ofNat f.bits (if negative then f.signBit + magnitude else magnitude)

def zero (f : Format) : Pattern f :=
  0

def infinity (f : Format) (negative : Bool) : Pattern f :=
  make f negative f.infinity

/-- What an invalid operation gives: the quiet pattern with an empty payload and the sign set. -/
def invalid (f : Format) : Pattern f :=
  make f true (f.infinity + 2 ^ (f.fraction - 1))

/-- The same not-a-number with its quiet bit set. -/
def quiet {f : Format} (x : Pattern f) : Pattern f :=
  x ||| BitVec.ofNat f.bits (2 ^ (f.fraction - 1))

/-! ## Laws -/

theorem infinity_lt_signBit (f : Format) : f.infinity < f.signBit := by
  cases f
  · decide
  · decide

theorem two_mul_signBit (f : Format) : 2 * f.signBit = 2 ^ f.bits := by
  cases f
  · decide
  · decide

theorem magnitude_make (f : Format) (negative : Bool) {magnitude : Nat}
    (h : magnitude < f.signBit) : (make f negative magnitude).magnitude = magnitude := by
  have htwice := two_mul_signBit f
  unfold Pattern.magnitude make
  rw [BitVec.toNat_ofNat]
  cases negative with
  | false =>
      have hfits : magnitude < 2 ^ f.bits := by omega
      simp only [Bool.false_eq_true, if_false]
      rw [Nat.mod_eq_of_lt hfits, Nat.mod_eq_of_lt h]
  | true =>
      have hfits : f.signBit + magnitude < 2 ^ f.bits := by omega
      simp only [if_true]
      rw [Nat.mod_eq_of_lt hfits, Nat.add_mod_left, Nat.mod_eq_of_lt h]

theorem negative_make (f : Format) (negative : Bool) {magnitude : Nat}
    (h : magnitude < f.signBit) : (make f negative magnitude).negative = negative := by
  have htwice := two_mul_signBit f
  unfold Pattern.negative make
  rw [BitVec.msb_eq_decide]
  have hhalf : 2 ^ (f.bits - 1) = f.signBit := rfl
  rw [BitVec.toNat_ofNat, hhalf]
  cases negative with
  | false =>
      have hfits : magnitude < 2 ^ f.bits := by omega
      simp only [Bool.false_eq_true, if_false]
      rw [Nat.mod_eq_of_lt hfits]
      exact decide_eq_false (by omega)
  | true =>
      have hfits : f.signBit + magnitude < 2 ^ f.bits := by omega
      simp only [if_true]
      rw [Nat.mod_eq_of_lt hfits]
      exact decide_eq_true (by omega)

end Pattern
end Binary
end Provision
