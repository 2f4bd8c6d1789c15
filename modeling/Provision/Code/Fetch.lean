import Provision.Code.Instruction

/-!
# Operands from memory

An operation of the machine can take one operand from memory.  Of a sum or a product of floats that
is the second one.  To take the first one from there, the operands trade places, which tells only
where neither is a number.
-/

namespace Provision

/-- A load whose value can be taken from memory. -/
structure Fetch where
  value : ValueId
  type : MachineType
  address : ValueId
  offset : Int
  deriving DecidableEq, Repr

namespace Operation

/-- Whether an operation can take what is fetched as an operand from memory. -/
def takes (fetch : Fetch) : Operation -> Bool
  | int .sub _ b => b = fetch.value
  | int _ a b => a = fetch.value ∨ b = fetch.value
  | float .add a b => a = fetch.value ∨ b = fetch.value
  | float .mul a b => a = fetch.value ∨ b = fetch.value
  | float _ _ b => b = fetch.value
  | unary .sqrt a => a = fetch.value
  | addImmediate a _ => a = fetch.value
  | mulImmediate a _ => a = fetch.value
  | signExtend type a => a = fetch.value ∧ type ≠ .i128
  | zeroExtend _ a => a = fetch.value
  | ofSigned _ a => a = fetch.value
  | ofUnsigned type a => a = fetch.value ∧ type = .f32
  | select _ a _ => a = fetch.value ∧ fetch.type.isInt
  | _ => false

/-- The operation as the machine does it that takes what is fetched from memory. -/
def taking (fetch : Fetch) : Operation -> Operation
  | float .add a b => if a = fetch.value then float .add b a else float .add a b
  | float .mul a b => if a = fetch.value then float .mul b a else float .mul a b
  | operation => operation

/-! ## Laws -/

theorem onFloats_comm
    {apply : {f : Binary.Format} -> Binary.Pattern f -> Binary.Pattern f -> Binary.Pattern f}
    (hcomm : forall {f : Binary.Format} {x y : Binary.Pattern f},
      x.isNaN = false ∨ y.isNaN = false -> apply x y = apply y x)
    {x y : Scalar} (h : x.isNaN = false ∨ y.isNaN = false) :
    onFloats apply x y = onFloats apply y x := by
  cases x with
  | int w x =>
      cases y
      · rfl
      · rfl
  | float f x =>
      cases y with
      | int w y => rfl
      | float g y =>
          by_cases hformat : f = g
          · subst hformat
            simp only [onFloats, Scalar.asFloat?_float, Option.map_some]
            rw [hcomm h]
          · have hother : g ≠ f := fun heq => hformat heq.symm
            simp [onFloats, Scalar.asFloat?, hformat, hother]

/-- Trading the operands of a sum or a product keeps its value, unless neither is a number. -/
theorem eval_float_swap {value? : ValueId -> Option Scalar} {operator : FloatOperator}
    (hoperator : operator = .add ∨ operator = .mul) {a b : ValueId}
    (h : forall x y, value? a = some x -> value? b = some y ->
      x.isNaN = false ∨ y.isNaN = false) :
    (float operator b a).eval value? = (float operator a b).eval value? := by
  have hcomm : forall {f : Binary.Format} {x y : Binary.Pattern f},
      x.isNaN = false ∨ y.isNaN = false -> operator.apply x y = operator.apply y x := by
    intro f x y hnumber
    rcases hoperator with hadd | hmul
    · subst hadd
      exact Binary.Pattern.add_comm hnumber
    · subst hmul
      exact Binary.Pattern.mul_comm hnumber
  simp only [eval]
  cases ha : value? a with
  | none => cases value? b <;> rfl
  | some x =>
      cases hb : value? b with
      | none => rfl
      | some y => exact (onFloats_comm hcomm (h x y ha hb)).symm

end Operation

end Provision
