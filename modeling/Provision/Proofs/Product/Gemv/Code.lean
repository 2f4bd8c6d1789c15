import Provision.Proofs.Code.Arithmetic
import Provision.Proofs.Product.Gemm.Code

/-!
# Code of the matrix-vector product

The procedure that the body of the matrix-vector product is compiled to.  It is the same in every
compilation unit, since the body calls nothing and has no native integers.
-/

namespace Provision
namespace Gemv

/-! ## Loops -/

/-- The loop over the rows of the matrix. -/
def rows : Counting where
  width := .w32
  index := 15
  test := 17
  origin := 14
  next := 41
  bound := 2
  locals := []

/-- The sum so far, which a row starts from zero. -/
def partialSum (f : Binary.Format) : Carried where
  value := 21
  type := .float f
  initial := 18
  next := 35

/-- The loop over the terms of a row. -/
def terms (f : Binary.Format) : Counting where
  width := .w32
  index := 20
  test := 22
  origin := 19
  next := 36
  bound := 3
  locals := [partialSum f]

theorem carries_terms (f : Binary.Format) : (terms f).Carries (partialSum f) 19 where
  locals := rfl
  width := show Width.w32.bits ≤ 64 by decide
  bound := by simp [terms]
  initial := by simp [partialSum]
  origin := by simp [terms]
  index := by simp [terms]
  test := by simp [terms]
  value := by simp [partialSum]
  index_ne_test := by simp [terms]
  value_ne_index := by simp [terms, partialSum]
  value_ne_test := by simp [terms, partialSum]

/-! ## Bodies of the loops -/

def offsets : List Instruction :=
  Block.multiplyAdd 23 15 6 20 ++ [.compute 25 (.int .mul 20 8)]

def accumulate (f : Binary.Format) : List Instruction :=
  offsets ++ (Block.addProduct (.float f) 26 5 24 7 25 21 ++ [.compute 36 (.addImmediate 20 1)])

/-- Stores the sum of a row. -/
def conclude (f : Binary.Format) : List Instruction :=
  [.compute 37 (.int .mul 15 11)] ++
    (Block.put (.float f) 38 10 37 21 ++ [.compute 41 (.addImmediate 15 1)])

/-! ## The procedure -/

def overTerms (f : Binary.Format) : Code :=
  .step (.compute 18 (.constFloat f 0))
    (.step (.compute 19 (.constInt .i32 0))
      (.loop (terms f).header (.ofSteps (accumulate f)) (.ofSteps (conclude f))))

/-- A zero is made for the sum before there is a row, and none is taken from it. -/
def code (f : Binary.Format) : Code :=
  .step (.compute 13 (.constFloat f 0))
    (.step (.compute 14 (.constInt .i32 0))
      (.loop rows.header (overTerms f) (.ofSteps [.compute 42 (.constInt .i32 0)])))

def procedure (f : Binary.Format) : Procedure where
  signature :=
    { params :=
        [ .i32, .i32, .i32, .i32, .float f, .i64, .i32, .i64, .i32, .float f, .i64, .i32 ]
      returns := [.i32] }
  slots := []
  code := code f
  results := [42]
  near := []

theorem compiled_eq (f : Binary.Format) :
    (Routine.gemv (.ofFormat f)).compiled? (Kernel.gemv.signature (.ofFormat f)) none =
      some (procedure f) := by
  cases f
  · decide +kernel
  · decide +kernel

/-- The body is accepted, and every unit compiles it to the same procedure. -/
theorem procedure_eq (f : Binary.Format) (unit : CompilationUnit) (name : String) :
    unit.procedure name (Kernel.gemv.signature (.ofFormat f)) (Routine.gemv (.ofFormat f)) =
      .ok (procedure f) :=
  unit.procedure_of_compiled_alone name (compiled_eq f) rfl rfl

end Gemv
end Provision
