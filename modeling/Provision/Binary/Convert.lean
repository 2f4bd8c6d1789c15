import Provision.Binary.Arithmetic

/-!
# Conversions

Between integers, decimal fractions and the two formats.  Towards a format every conversion
rounds once; towards an integer it truncates and saturates.
-/

namespace Provision
namespace Binary
namespace Pattern

variable {f : Format}

def ofInt (f : Format) (n : Int) : Pattern f :=
  round f (decide (n < 0)) (n.natAbs * 2 ^ f.scale) 1

/-- The number nearest to `numerator / denominator`, with the sign given apart so that a zero
can have one. -/
def ofRatio (f : Format) (negative : Bool) (numerator denominator : Nat) : Pattern f :=
  round f negative (numerator * 2 ^ f.scale) denominator

/-- The number nearest to `mantissa / 10 ^ places`. -/
def ofDecimal (f : Format) (mantissa : Int) (places : Nat) : Pattern f :=
  ofRatio f (decide (mantissa < 0)) mantissa.natAbs (10 ^ places)

/-- Into another format; the payload of a not-a-number keeps its leading places. -/
def convert (g : Format) (x : Pattern f) : Pattern g :=
  match x.datum with
  | .finite s units => round g s (units * 2 ^ g.scale) (2 ^ f.scale)
  | .infinite s => infinity g s
  | .nan =>
      let payload := x.magnitude % 2 ^ f.fraction * 2 ^ g.fraction / 2 ^ f.fraction
      (make g x.negative (g.infinity + payload)).quiet

/-- Truncation towards zero into a signed integer of the given width, saturating; what is not a
number gives zero. -/
def toInt (x : Pattern f) (width : Nat) : Int :=
  let least : Int := -(2 ^ (width - 1) : Nat)
  let greatest : Int := (2 ^ (width - 1) : Nat) - 1
  match x.datum with
  | .nan => 0
  | .infinite s => if s then least else greatest
  | .finite s units => max least (min greatest (signed s (units / 2 ^ f.scale)))

end Pattern
end Binary
end Provision
