import Provision.Binary.Rounding

/-!
# Arithmetic on binary floating-point numbers

Each operation computes its exact result in units and rounds once.  An operand that is not a
number is passed on, the first one winning; an operation without a value gives the invalid
pattern.
-/

namespace Provision
namespace Binary
namespace Pattern

variable {f : Format}

/-- The first operand that is not a number, made quiet; the given result if there is none. -/
def orNaN (x y : Pattern f) (result : Pattern f) : Pattern f :=
  if x.isNaN then x.quiet
  else if y.isNaN then y.quiet
  else result

/-! ## Sum -/

/-- Signed count of units. -/
def signed (negative : Bool) (units : Nat) : Int :=
  if negative then -(units : Int) else units

/-- Sum of two finite numbers; an exact zero is negative only if both are. -/
def addFinite (f : Format) (s : Bool) (a : Nat) (t : Bool) (b : Nat) : Pattern f :=
  let sum := signed s a + signed t b
  if sum = 0 then make f (s && t) 0
  else round f (decide (sum < 0)) sum.natAbs 1

def addData (f : Format) : Datum -> Datum -> Pattern f
  | .finite s a, .finite t b => addFinite f s a t b
  | .infinite s, .finite _ _ => infinity f s
  | .finite _ _, .infinite t => infinity f t
  | .infinite s, .infinite t => if s = t then infinity f s else invalid f
  | _, _ => invalid f

def add (x y : Pattern f) : Pattern f :=
  orNaN x y (addData f x.datum y.datum)

/-! ## Sign -/

/-- Difference: the sum with the opposite of the second operand. -/
def sub (x y : Pattern f) : Pattern f :=
  orNaN x y (addData f x.datum (y.datum.negate))

/-- The number without its sign, whatever the pattern. -/
def abs (x : Pattern f) : Pattern f :=
  make f false x.magnitude

/-! ## Product and quotient -/

def mulData (f : Format) : Datum -> Datum -> Pattern f
  | .finite s a, .finite t b => round f (s != t) (a * b) (2 ^ f.scale)
  | .infinite s, .finite t b => if b = 0 then invalid f else infinity f (s != t)
  | .finite s a, .infinite t => if a = 0 then invalid f else infinity f (s != t)
  | .infinite s, .infinite t => infinity f (s != t)
  | _, _ => invalid f

def mul (x y : Pattern f) : Pattern f :=
  orNaN x y (mulData f x.datum y.datum)

def divData (f : Format) : Datum -> Datum -> Pattern f
  | .finite s a, .finite t b =>
      if b = 0 then
        if a = 0 then invalid f else infinity f (s != t)
      else round f (s != t) (a * 2 ^ f.scale) b
  | .infinite s, .finite t _ => infinity f (s != t)
  | .finite s _, .infinite t => make f (s != t) 0
  | .infinite _, .infinite _ => invalid f
  | _, _ => invalid f

def div (x y : Pattern f) : Pattern f :=
  orNaN x y (divData f x.datum y.datum)

/-! ## Square root -/

/-- Greatest number whose square is at most `n`, found from its top binary place down. -/
def floorSqrt (n : Nat) : Nat :=
  go (Nat.log2 n / 2 + 1) 0
where
  go : Nat -> Nat -> Nat
    | 0, root => root
    | place + 1, root =>
        let next := root + 2 ^ place
        go place (if next * next ≤ n then next else root)

/-- Square root of a finite number.  The root of `units * 2 ^ unit` has far more places than a
significand, so one half added to an inexact root rounds as the root does. -/
def sqrtFinite (f : Format) (units : Nat) : Pattern f :=
  let radicand := units * 2 ^ f.scale
  let root := floorSqrt radicand
  round f false (2 * root + (if root * root = radicand then 0 else 1)) 2

def sqrtDatum (f : Format) : Datum -> Pattern f
  | .finite s units =>
      if units = 0 then make f s 0
      else if s then invalid f
      else sqrtFinite f units
  | .infinite false => infinity f false
  | _ => invalid f

def sqrt (x : Pattern f) : Pattern f :=
  orNaN x x (sqrtDatum f x.datum)

/-! ## Order of operands -/

/-- Which operand comes first tells only where neither is a number. -/
theorem orNaN_comm {x y : Pattern f} (result : Pattern f)
    (h : x.isNaN = false ∨ y.isNaN = false) : orNaN x y result = orNaN y x result := by
  unfold orNaN
  rcases h with hx | hy
  · rw [hx]
    simp
  · rw [hy]
    simp

theorem addFinite_comm (f : Format) (s t : Bool) (a b : Nat) :
    addFinite f s a t b = addFinite f t b s a := by
  unfold addFinite
  rw [Int.add_comm, Bool.and_comm]

theorem addData_comm (f : Format) (x y : Datum) : addData f x y = addData f y x := by
  cases x with
  | nan =>
      cases y
      all_goals rfl
  | infinite s =>
      cases y with
      | nan => rfl
      | infinite t =>
          cases s
          all_goals
            cases t
            all_goals rfl
      | finite t b => rfl
  | finite s a =>
      cases y with
      | nan => rfl
      | infinite t => rfl
      | finite t b => exact addFinite_comm f s t a b

theorem mulData_comm (f : Format) (x y : Datum) : mulData f x y = mulData f y x := by
  cases x with
  | nan =>
      cases y
      all_goals rfl
  | infinite s =>
      cases y with
      | nan => rfl
      | infinite t => simp only [mulData, bne_comm]
      | finite t b => simp only [mulData, bne_comm]
  | finite s a =>
      cases y with
      | nan => rfl
      | infinite t => simp only [mulData, bne_comm]
      | finite t b => simp only [mulData, bne_comm, Nat.mul_comm]

protected theorem add_comm {x y : Pattern f} (h : x.isNaN = false ∨ y.isNaN = false) :
    x.add y = y.add x := by
  unfold add
  rw [orNaN_comm _ h, addData_comm]

protected theorem mul_comm {x y : Pattern f} (h : x.isNaN = false ∨ y.isNaN = false) :
    x.mul y = y.mul x := by
  unfold mul
  rw [orNaN_comm _ h, mulData_comm]

end Pattern
end Binary
end Provision
