import Provision.DataType
import Provision.Target
import Provision.Scalar

/-!
# Lowering

A lowering gives every data type its machine type on one target, and every signature its machine
signature.
-/

namespace Provision

/-! ## Signatures -/

/-- Parameters and result of a function, in data types. -/
structure Signature where
  params : List DataType
  returns : Option DataType
  deriving DecidableEq, Repr, Inhabited

namespace Signature

/-- A function that returns nothing. -/
def command (params : List DataType) : Signature where
  params := params
  returns := none

/-- A function that returns one value. -/
def query (params : List DataType) (result : DataType) : Signature where
  params := params
  returns := some result

end Signature

/-- Parameters and results of a function, in machine types. -/
structure MachineSignature where
  params : List MachineType
  returns : List MachineType
  deriving DecidableEq, Repr, Inhabited

/-! ## Lowering of types -/

structure Lowering where
  pointer : MachineType
  native : MachineType
  deriving DecidableEq, Repr, Inhabited

namespace Lowering

/-- Machine type of the native integer. -/
def nativeOf : IntWidth -> MachineType
  | .bits8 => .i8
  | .bits16 => .i16
  | .bits64 => .i64
  | .bits32 => .i32
  | .unspecified => .i32

/-- The lowering for a target whose pointers have the given type. -/
def ofTarget (target : Target) (pointer : MachineType) : Lowering where
  pointer := pointer
  native := nativeOf target.intWidth

def lower (lowering : Lowering) : DataType -> MachineType
  | .int32 => .i32
  | .int64 => .i64
  | .float32 => .f32
  | .float64 => .f64
  | .native => lowering.native
  | .pointerTo _ => lowering.pointer

def bytes (lowering : Lowering) (type : DataType) : Nat :=
  (lowering.lower type).bytes

def signature (lowering : Lowering) (sig : Signature) : MachineSignature where
  params := sig.params.map lowering.lower
  returns := sig.returns.toList.map lowering.lower

theorem signature_returns_length (lowering : Lowering) (sig : Signature) :
    (lowering.signature sig).returns.length = sig.returns.toList.length := by
  simp [signature]

end Lowering
end Provision
