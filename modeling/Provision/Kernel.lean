import Provision.Lowering

/-!
# Matrix kernels

The matrix-vector and matrix-matrix products, where their code comes from, and the conventions of
their arguments.
-/

namespace Provision

inductive Kernel where
  | gemv
  | gemm
  deriving DecidableEq, Repr

/-- Where the code of a kernel comes from: a library, or the module itself. -/
inductive Binding where
  | library
  | module
  deriving DecidableEq, Repr, Inhabited

namespace Kernel

def name : Kernel -> String
  | gemv => "gemv"
  | gemm => "gemm"

/-! ## Argument conventions -/

def rowMajor : Int := 101
def colMajor : Int := 102
def notTransposed : Int := 111
def transposed : Int := 112

/-- Parameters of a kernel, which returns a status.  The matrix-vector product takes order,
transposition, two dimensions, a scale, the matrix and its row distance, the vector and its step,
another scale, the result and its step.  The matrix-matrix product takes order, two
transpositions, three dimensions, a scale, two matrices with their row distances, another scale,
the result and its row distance. -/
def params (element : DataType) : Kernel -> List DataType
  | gemv =>
      [ .int32, .int32, .int32, .int32,
        element, element.pointerTo, .int32, element.pointerTo, .int32,
        element, element.pointerTo, .int32 ]
  | gemm =>
      [ .int32, .int32, .int32, .int32, .int32, .int32,
        element, element.pointerTo, .int32, element.pointerTo, .int32,
        element, element.pointerTo, .int32 ]

def signature (kernel : Kernel) (element : DataType) : Signature :=
  .query (kernel.params element) .int32

end Kernel
end Provision
