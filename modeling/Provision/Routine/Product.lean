import Provision.Kernel
import Provision.Script

/-!
# Products of vectors and matrices

The bodies of the dot product and of the two matrix kernels.  The matrix kernels do not apply
order, scales or, for the matrix-vector product, transposition.
-/

namespace Provision
namespace Routine

/-! ## Dot product -/

/-- Stores the sum of the products of `count` elements at `result`, which is zeroed first. -/
def dot (element : DataType) : Body where
  script :=
    .prepend
      [ .param "count" 0,
        .param "left" 1,
        .param "right" 2,
        .param "result" 3,
        .zero "zero" element,
        .store "zero" "result" 0,
        .newLocal "sum" element "zero" ]
      (Script.countUp "count" "i"
        (.ofSteps
          [ .loadAt "l" element "left" "i",
            .loadAt "r" element "right" "i",
            .mul "product" element "l" "r",
            .readLocal "acc" "sum",
            .add "acc" element "acc" "product",
            .assignLocal "sum" "acc" ])
        (.ofSteps
          [ .readLocal "total" "sum",
            .store "total" "result" 0 ]))
  returns := []

/-! ## Matrix-vector product -/

/-- For each of `m` rows stores the sum over `n` columns of `a[i * lda + j] * x[j * incx]` at
`y[i * incy]`. -/
def gemv (element : DataType) : Body where
  script :=
    .prepend
      [ .param "m" 2,
        .param "n" 3,
        .param "a" 5,
        .param "lda" 6,
        .param "x" 7,
        .param "incx" 8,
        .param "y" 10,
        .param "incy" 11,
        .zero "zero" element,
        .newLocal "accum" element "zero" ]
      (Script.countUp "m" "i"
        (.prepend
          [ .zero "zero" element,
            .assignLocal "accum" "zero" ]
          (Script.countUp "n" "j"
            (.ofSteps
              [ .multiplyAdd "a_index" "i" "lda" "j",
                .int "x_index" .mul "j" "incx",
                .loadAt "a_val" element "a" "a_index",
                .loadAt "x_val" element "x" "x_index",
                .mul "product" element "a_val" "x_val",
                .readLocal "acc" "accum",
                .add "acc" element "acc" "product",
                .assignLocal "accum" "acc" ])
            (.ofSteps
              [ .int "y_index" .mul "i" "incy",
                .readLocal "acc" "accum",
                .storeAt element "y" "y_index" "acc" ])))
        (.ofSteps [.constInt "status" .int32 0]))
  returns := ["status"]

/-! ## Matrix-matrix product -/

/-- The offset `row * stride + column`, or that with row and column exchanged if `flag` is not
zero; both are computed. -/
def matrixOffset (result flag row stride column : String) : List Step :=
  [ .multiplyAdd "transposed" column stride row,
    .multiplyAdd "normal" row stride column,
    .select result flag "transposed" "normal" ]

/-- Zeroes `m * ldc` elements of `c`, then adds to `c[i * ldc + j]` the products of the elements
`(i, p)` of `a` and `(p, j)` of `b`, in the order of `i`, `p`, `j`. -/
def gemm (element : DataType) : Body where
  script :=
    .prepend
      [ .param "trans_a" 1,
        .param "trans_b" 2,
        .param "m" 3,
        .param "n" 4,
        .param "k" 5,
        .param "a" 7,
        .param "lda" 8,
        .param "b" 9,
        .param "ldb" 10,
        .param "c" 12,
        .param "ldc" 13,
        .equals "trans_a" "trans_a" Kernel.transposed,
        .equals "trans_b" "trans_b" Kernel.transposed,
        .int "count" .mul "ldc" "m" ]
      (Script.countUp "count" "index"
        (.ofSteps
          [ .zero "zero" element,
            .storeAt element "c" "index" "zero" ])
        (Script.countUp "m" "i"
          (Script.countUp "k" "p"
            (Script.countUp "n" "j"
              (.ofSteps
                (matrixOffset "a_offset" "trans_a" "i" "lda" "p"
                  ++ matrixOffset "b_offset" "trans_b" "p" "ldb" "j"
                  ++ [ .multiplyAdd "c_offset" "i" "ldc" "j",
                       .loadAt "a_val" element "a" "a_offset",
                       .loadAt "b_val" element "b" "b_offset",
                       .loadAt "c_val" element "c" "c_offset",
                       .mul "product" element "a_val" "b_val",
                       .add "sum" element "c_val" "product",
                       .storeAt element "c" "c_offset" "sum" ]))
              .done)
            .done)
          (.ofSteps [.constInt "status" .int32 0])))
  returns := ["status"]

def kernel : Kernel -> DataType -> Body
  | .gemv => gemv
  | .gemm => gemm

end Routine
end Provision
