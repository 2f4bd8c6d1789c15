import Provision.Proofs.Code.Block
import Provision.Proofs.Code.Counting
import Provision.Proofs.Module.Portable
import Provision.Routine.Product

/-!
# Code of the matrix-matrix product

The procedure that the body of the matrix-matrix product is compiled to.  It is the same in every
compilation unit, since the body calls nothing and has no native integers.
-/

namespace Provision

/-- The data type of the numbers of a format. -/
def DataType.ofFormat : Binary.Format -> DataType
  | .single => float32
  | .double => float64

namespace Gemm

/-! ## Loops -/

/-- The loop that zeroes the result. -/
def clearing : Counting where
  width := .w32
  index := 18
  test := 19
  origin := 17
  next := 24
  bound := 16
  locals := []

/-- The loop over the rows of the result. -/
def rows : Counting where
  width := .w32
  index := 26
  test := 27
  origin := 25
  next := 65
  bound := 3
  locals := []

/-- The loop over what is summed up. -/
def terms : Counting where
  width := .w32
  index := 29
  test := 30
  origin := 28
  next := 64
  bound := 5
  locals := []

/-- The loop over the columns of the result. -/
def columns : Counting where
  width := .w32
  index := 32
  test := 33
  origin := 31
  next := 63
  bound := 4
  locals := []

/-! ## Bodies of the loops -/

def clear (f : Binary.Format) : List Instruction :=
  .compute 20 (.constFloat f 0) ::
    (Block.put (.float f) 21 12 18 20 ++ [.compute 24 (.addImmediate 18 1)])

def offsets : List Instruction :=
  Block.matrixOffset 34 14 26 8 29 ++
    (Block.matrixOffset 39 15 29 10 32 ++ Block.multiplyAdd 44 26 13 32)

def operands (f : Binary.Format) : List Instruction :=
  Block.fetch (.float f) 46 7 38 ++
    (Block.fetch (.float f) 50 9 43 ++ Block.fetch (.float f) 54 12 45)

/-- The product of two elements is added to the element of the result, or the other way round. -/
def sum (a b : ValueId) : List Instruction :=
  [.compute 58 (.float .mul 49 53), .compute 59 (.float .add a b)]

def accumulate (f : Binary.Format) (a b : ValueId) : List Instruction :=
  offsets ++
    (operands f ++
      (sum a b ++ (Block.put (.float f) 60 12 45 59 ++ [.compute 63 (.addImmediate 32 1)])))

/-! ## The procedure -/

def overColumns (f : Binary.Format) (a b : ValueId) : Code :=
  .step (.compute 31 (.constInt .i32 0))
    (.loop columns.header (.ofSteps (accumulate f a b))
      (.ofSteps [.compute 64 (.addImmediate 29 1)]))

def overTerms (f : Binary.Format) (a b : ValueId) : Code :=
  .step (.compute 28 (.constInt .i32 0))
    (.loop terms.header (overColumns f a b) (.ofSteps [.compute 65 (.addImmediate 26 1)]))

def overRows (f : Binary.Format) (a b : ValueId) : Code :=
  .step (.compute 25 (.constInt .i32 0))
    (.loop rows.header (overTerms f a b) (.ofSteps [.compute 66 (.constInt .i32 0)]))

/-- The flags of the two transpositions and the number of elements to be zeroed. -/
def prologue : List Instruction :=
  [ .compute 14 (.equalsImmediate 1 112),
    .compute 15 (.equalsImmediate 2 112),
    .compute 16 (.int .mul 13 3) ]

def code (f : Binary.Format) (a b : ValueId) : Code :=
  .prepend prologue
    (.step (.compute 17 (.constInt .i32 0))
      (.loop clearing.header (.ofSteps (clear f)) (overRows f a b)))

/-- The procedure in which the sum has the given operands. -/
def summing (f : Binary.Format) (a b : ValueId) : Procedure where
  signature :=
    { params :=
        [ .i32, .i32, .i32, .i32, .i32, .i32,
          .float f, .i64, .i32, .i64, .i32, .float f, .i64, .i32 ]
      returns := [.i32] }
  slots := []
  code := code f a b
  results := [66]
  near := []

/-- The procedure as the machine runs it. -/
def procedure (f : Binary.Format) : Procedure :=
  summing f 58 57

theorem build_eq (f : Binary.Format) :
    ((Routine.gemm (.ofFormat f)).build
        (.reference (Kernel.gemm.signature (.ofFormat f)) none)).1.toOption =
      some (summing f 57 58) := by
  cases f
  · decide +kernel
  · decide +kernel

theorem check_summing (f : Binary.Format) :
    ((summing f 57 58).check fun _ => none).toOption = some true := by
  cases f
  · decide +kernel
  · decide +kernel

/-- The element of the result is fused with the sum, which takes it from memory as its second
operand. -/
theorem fuse_summing (f : Binary.Format) : (summing f 57 58).fuse = procedure f := by
  cases f
  · decide +kernel
  · decide +kernel

/-- The body is accepted, and every unit compiles it to the same procedure. -/
theorem procedure_eq (f : Binary.Format) (unit : CompilationUnit) (name : String) :
    unit.procedure name (Kernel.gemm.signature (.ofFormat f)) (Routine.gemm (.ofFormat f)) =
      .ok (procedure f) := by
  refine unit.procedure_of_callees_nil name ?_ ?_ ?_ ?_ rfl (build_eq f) (check_summing f)
    (fuse_summing f)
  · cases f
    all_goals decide
  · cases f
    all_goals decide
  · rfl
  · rfl

end Gemm
end Provision
