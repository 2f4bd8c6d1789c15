import Provision.Binary.Convert
import Provision.Binary.Series

/-!
# Elementary functions

Exponential, natural logarithm, sine, cosine and hyperbolic tangent on numbers of either format.
Each result is computed to about two hundred binary places and rounded once.
-/

namespace Provision
namespace Binary
namespace Pattern

variable {f : Format}

/-- Binary places kept beyond the point by every computation below. -/
def places : Nat :=
  256

/-- A nonnegative number of units in fixed point. -/
def fixed (f : Format) (places units : Nat) : Nat :=
  units * 2 ^ places / 2 ^ f.scale

/-- A fixed-point number times a power of two, rounded. -/
def ofFixed (f : Format) (x : Int) (exponent : Int) : Pattern f :=
  ofRatio f (decide (x < 0)) (x.natAbs * 2 ^ exponent.toNat) (2 ^ places * 2 ^ (-exponent).toNat)

/-- Whether `units` are less than two to the power of minus `k`. -/
def below (f : Format) (k units : Nat) : Bool :=
  decide (units * 2 ^ k < 2 ^ f.scale)

/-- Whether `units` are at least two to the power of `k`. -/
def reaches (f : Format) (k units : Nat) : Bool :=
  decide (2 ^ (f.scale + k) ≤ units)

/-! ## Exponential -/

/-- Exponential of a fixed-point number as a factor between one and two and a power of two. -/
def expParts (x : Int) : Int × Int :=
  let ln2 := Series.ln2 places
  let exponent := x / ln2
  (Series.exp places (x - exponent * ln2), exponent)

def expFinite (f : Format) (negative : Bool) (units : Nat) : Pattern f :=
  if reaches f 11 units then
    if negative then zero f else infinity f false
  else
    let (factor, exponent) := expParts (signed negative (fixed f places units))
    ofFixed f factor exponent

def exp (x : Pattern f) : Pattern f :=
  match x.datum with
  | .nan => x.quiet
  | .infinite negative => if negative then zero f else infinity f false
  | .finite negative units => expFinite f negative units

/-! ## Logarithm -/

/-- Logarithm of a positive number: that of its significand, between one and two, and that of its
power of two. -/
def logFinite (f : Format) (units : Nat) : Pattern f :=
  let exponent := Nat.log2 units
  let significand : Int := (units * 2 ^ places / 2 ^ exponent : Nat)
  let unit := Series.one places
  let ratio := (significand - unit) * unit / (significand + unit)
  let power : Int := (exponent : Int) - f.scale
  ofFixed f (2 * Series.artanh places ratio + power * Series.ln2 places) 0

def log (x : Pattern f) : Pattern f :=
  match x.datum with
  | .nan => x.quiet
  | .infinite negative => if negative then invalid f else infinity f false
  | .finite negative units =>
      if units = 0 then infinity f true
      else if negative then invalid f
      else logFinite f units

/-! ## Sine and cosine -/

/-- Quarter turns in a nonnegative number of units, and what is left in fixed point. -/
def quarterTurns (f : Format) (units : Nat) : Nat × Int :=
  let extra := Nat.log2 (units / 2 ^ f.scale)
  let quarter := (Series.pi (places + extra)).toNat / 2
  let angle := fixed f (places + extra) units
  (angle / quarter, (angle % quarter / 2 ^ extra : Nat))

/-- Sine of an angle given by quarter turns and a rest. -/
def sinTurned (turns : Nat) (rest : Int) : Int :=
  match turns % 4 with
  | 0 => Series.sin places rest
  | 1 => Series.cos places rest
  | 2 => -Series.sin places rest
  | _ => -Series.cos places rest

def sin (x : Pattern f) : Pattern f :=
  match x.datum with
  | .nan => x.quiet
  | .infinite _ => invalid f
  | .finite negative units =>
      if below f 40 units then x
      else
        let (turns, rest) := quarterTurns f units
        let value := sinTurned turns rest
        ofFixed f (if negative then -value else value) 0

def cos (x : Pattern f) : Pattern f :=
  match x.datum with
  | .nan => x.quiet
  | .infinite _ => invalid f
  | .finite _ units =>
      let (turns, rest) := quarterTurns f units
      ofFixed f (sinTurned (turns + 1) rest) 0

/-! ## Hyperbolic tangent -/

/-- Hyperbolic tangent from the exponential `e` of twice the argument: `(e - 1) / (e + 1)`. -/
def tanhFinite (f : Format) (negative : Bool) (units : Nat) : Pattern f :=
  let (factor, exponent) := expParts (fixed f places (2 * units))
  let e := factor.toNat * 2 ^ exponent.toNat
  ofRatio f negative (e - 2 ^ places) (e + 2 ^ places)

def tanh (x : Pattern f) : Pattern f :=
  match x.datum with
  | .nan => x.quiet
  | .infinite negative => round f negative (2 ^ f.scale) 1
  | .finite negative units =>
      if below f 40 units then x
      else if reaches f 6 units then round f negative (2 ^ f.scale) 1
      else tanhFinite f negative units

end Pattern
end Binary
end Provision
