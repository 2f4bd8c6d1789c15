/-!
# Power series in fixed point

A real number is held as an integer that counts units of two to the power of minus `places`.
Every series is cut after a given number of terms; the callers choose enough of them for the last
term to vanish.
-/

namespace Provision
namespace Binary
namespace Series

def one (places : Nat) : Int :=
  (2 ^ places : Nat)

def mul (places : Nat) (a b : Int) : Int :=
  a * b / one places

/-- Sum of `terms` terms starting with `term`, where the term at `k` is followed by `next k` of
it. -/
def sum (next : Nat -> Int -> Int) : Nat -> Nat -> Int -> Int
  | 0, _, _ => 0
  | terms + 1, k, term => term + sum next terms (k + 1) (next k term)

/-- Exponential of `x`, of absolute value at most one. -/
def exp (places : Nat) (x : Int) : Int :=
  let next (k : Nat) (term : Int) : Int :=
    mul places term x / (k + 1 : Nat)
  sum next 72 0 (one places)

/-- Sine of `x`, of absolute value at most two. -/
def sin (places : Nat) (x : Int) : Int :=
  let square := mul places x x
  let next (k : Nat) (term : Int) : Int :=
    -(mul places term square / ((2 * k + 2) * (2 * k + 3) : Nat))
  sum next 48 0 x

/-- Cosine of `x`, of absolute value at most two. -/
def cos (places : Nat) (x : Int) : Int :=
  let square := mul places x x
  let next (k : Nat) (term : Int) : Int :=
    -(mul places term square / ((2 * k + 1) * (2 * k + 2) : Nat))
  sum next 48 0 (one places)

/-- Sum of the odd powers of `x` over their exponents, the area hyperbolic tangent, for `x` of
absolute value at most one third. -/
def artanh (places : Nat) (x : Int) : Int :=
  let square := mul places x x
  odd square (places / 3 + 2) 0 x
where
  odd (square : Int) : Nat -> Nat -> Int -> Int
    | 0, _, _ => 0
    | terms + 1, k, power =>
        power / (2 * k + 1 : Nat) + odd square terms (k + 1) (mul places power square)

/-- Arc tangent of the reciprocal of `n`, for `n` at least five. -/
def arctanInverse (places : Nat) (n : Nat) : Int :=
  odd (places / 4 + 2) 0 (one places / (n : Nat))
where
  odd : Nat -> Nat -> Int -> Int
    | 0, _, _ => 0
    | terms + 1, k, power =>
        power / (2 * k + 1 : Nat) + odd terms (k + 1) (-(power / (n * n : Nat)))

def ln2 (places : Nat) : Int :=
  2 * artanh places (one places / 3)

/-- Half a turn: sixteen arc tangents of 1 / 5 less four arc tangents of 1 / 239. -/
def pi (places : Nat) : Int :=
  4 * (4 * arctanInverse places 5 - arctanInverse places 239)

end Series
end Binary
end Provision
