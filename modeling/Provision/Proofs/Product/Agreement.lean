import Provision.Proofs.Product.Dot.Run
import Provision.Proofs.Product.Gemm.Correct
import Provision.Proofs.Product.Gemv.Elements

/-!
# Agreement of the products

The three products add up the same terms in the same order.  One sums in a local, one in memory, and
one in a local after it has zeroed the result.  They leave the same numbers as long as the results
lie apart from the operands; only what a sum passes on that is not a number can differ between the
two matrix kernels.
-/

namespace Provision

/-! ## A vector as a matrix -/

namespace Gemv
namespace Arguments

variable {f : Binary.Format} (call : Arguments f)

/-- The product of matrices in which the vector and the result are columns. -/
def asMatrices (order transA transB : BitVec 32) (alpha beta : Binary.Pattern f) :
    Gemm.Arguments f where
  order := order
  transA := transA
  transB := transB
  m := call.m
  n := 1
  k := call.n
  alpha := alpha
  a := call.a
  lda := call.lda
  b := call.x
  ldb := call.incx
  beta := beta
  c := call.y
  ldc := 1

variable {call} {order transA transB : BitVec 32} {alpha beta : Binary.Pattern f} {i j : Nat}

theorem addressA_eq (hA : transA ≠ 112) (hi : i < call.rowCount) (hj : j < call.termCount) :
    call.addressA (BitVec.ofNat 32 i) (BitVec.ofNat 32 j) =
      Memory.numberAt f call.a
        ((call.asMatrices order transA transB alpha beta).indexA i j) := by
  have hindex : (Gemm.Arguments.offset false call.lda (BitVec.ofNat 32 i)
      (BitVec.ofNat 32 j)).toInt = Gemm.Arguments.index false call.lda.toInt i j :=
    Gemm.Arguments.toInt_offset (toInt_ofNat_of_le (Nat.le_of_lt hi))
      (toInt_ofNat_of_le (Nat.le_of_lt hj))
  have hflag : decide (transA = 112) = false := decide_eq_false hA
  unfold addressA Gemm.Arguments.indexA asMatrices
  rw [Memory.elementAddress_float, hflag, ← hindex]
  rfl

theorem addressX_eq (hB : transB ≠ 112) (hj : j < call.termCount) :
    call.addressX (BitVec.ofNat 32 j) =
      Memory.numberAt f call.x
        ((call.asMatrices order transA transB alpha beta).indexB j 0) := by
  have hindex : (Gemm.Arguments.offset false call.incx (BitVec.ofNat 32 j) 0).toInt =
      Gemm.Arguments.index false call.incx.toInt j 0 :=
    Gemm.Arguments.toInt_offset (toInt_ofNat_of_le (Nat.le_of_lt hj)) rfl
  have hflag : decide (transB = 112) = false := decide_eq_false hB
  have hcolumn : BitVec.ofNat 32 j * call.incx + 0 = BitVec.ofNat 32 j * call.incx :=
    BitVec.add_zero _
  unfold addressX Gemm.Arguments.indexB asMatrices
  rw [Memory.elementAddress_float, hflag, ← hindex, Gemm.Arguments.offset,
    if_neg Bool.false_ne_true, hcolumn]

theorem fits_asMatrices : (call.asMatrices order transA transB alpha beta).Fits := by
  have hlower := BitVec.le_two_mul_toInt (x := call.m)
  have hupper := BitVec.two_mul_toInt_lt (x := call.m)
  have hone : (1 : BitVec 32).toInt = 1 := by decide
  refine ⟨?_, ?_, ?_, ?_⟩
  · show (0 : Int) ≤ (1 : BitVec 32).toInt
    decide
  · exact Int.le_refl _
  · show (-2 ^ 31 : Int) ≤ call.m.toInt * (1 : BitVec 32).toInt
    rw [hone]
    omega
  · show call.m.toInt * (1 : BitVec 32).toInt < 2 ^ 31
    rw [hone]
    omega

theorem size_asMatrices :
    (call.asMatrices order transA transB alpha beta).size = call.rowCount := by
  show call.rowCount * (1 : BitVec 32).toInt.toNat = call.rowCount
  exact Nat.mul_one call.rowCount

/-- A byte of the result is a byte of the column. -/
theorem inResult_of_inNumber (hstep : call.incy = 1) {e : Nat} (he : e < call.rowCount)
    {a : Memory.Address} (ha : Memory.InNumber f call.y e a) : call.InResult a := by
  refine ⟨e, he, ?_⟩
  rw [addressY_of_one hstep he]
  exact ha

theorem apart_asMatrices (hstep : call.incy = 1) (hA : transA ≠ 112) (hB : transB ≠ 112)
    (hapart : call.Apart) : (call.asMatrices order transA transB alpha beta).Apart where
  first := by
    intro i j p hi _ hp a ha e he hin
    rw [size_asMatrices] at he
    refine hapart.matrix i p hi hp a ?_ (inResult_of_inNumber hstep he hin)
    rw [addressA_eq hA hi hp]
    exact ha
  second := by
    intro i j p hi hj hp a ha e he hin
    have hcolumn : j = 0 := Nat.lt_one_iff.mp hj
    rw [hcolumn] at ha
    rw [size_asMatrices] at he
    refine hapart.vector p hp a ?_ (inResult_of_inNumber hstep he hin)
    rw [addressX_eq hB hp]
    exact ha

/-- The sums in the column, with the terms behind, are the rows. -/
theorem sumBehind_asMatrices (hA : transA ≠ 112) (hB : transB ≠ 112) (memory : Memory)
    (hi : i < call.rowCount) :
    (call.asMatrices order transA transB alpha beta).sumBehind memory i 0 =
      call.row memory (BitVec.ofNat 32 i) := by
  refine List.foldl_rel (r := fun x y => x = y) rfl ?_
  intro j hj x y hxy
  have hterm := List.mem_range.mp hj
  show x.add (Gemm.Arguments.term _ memory i 0 j) = y.add (call.term memory _ _)
  rw [hxy, term, addressA_eq hA hi hterm, addressX_eq hB hterm]
  rfl

/-- A vector and a column that are computed of the same operands agree, and nothing else is
changed. -/
structure SameColumn (call : Arguments f) (before vector column : Memory) : Prop where
  agrees : forall i, i < call.rowCount ->
    Binary.Pattern.Agree (column.float f (Memory.numberAt f call.y i))
      (vector.float f (Memory.numberAt f call.y i))
  frame : forall a, ¬ call.InResult a ->
    vector.byteAt a = before.byteAt a ∧ column.byteAt a = before.byteAt a

theorem sameColumn (hstep : call.incy = 1) (hA : transA ≠ 112) (hB : transB ≠ 112)
    (hapart : call.Apart) (memory : Memory) :
    call.SameColumn memory (call.result memory)
      ((call.asMatrices order transA transB alpha beta).result memory) := by
  have hshows := shows_result hstep hapart memory
  have hproduct : (call.asMatrices order transA transB alpha beta).IsProduct memory _ :=
    Gemm.Arguments.isProduct_result fits_asMatrices (apart_asMatrices hstep hA hB hapart) memory
  constructor
  · intro i hi
    have hagrees := hproduct.agrees i 0 hi Nat.one_pos
    have hplace : (i * (1 : BitVec 32).toInt + (0 : Nat) : Int) = i := by
      rw [show (1 : BitVec 32).toInt = 1 from rfl]
      simp
    rw [sumBehind_asMatrices hA hB memory hi] at hagrees
    rw [hshows.float i hi, ← hplace]
    exact hagrees
  · intro a ha
    refine ⟨(result_eq_storeRows hapart memory).right a ha, hproduct.frame a ?_⟩
    intro e he hin
    rw [size_asMatrices] at he
    exact ha (inResult_of_inNumber hstep he hin)

end Arguments
end Gemv

/-! ## A dot product as a row -/

namespace Dot
namespace Arguments

variable {call : Arguments}

/-- The product of a matrix of one row and a vector. -/
def asMatrix (call : Arguments) (order trans lda incy : BitVec 32)
    (alpha beta : Binary.Pattern .double) : Gemv.Arguments .double where
  order := order
  trans := trans
  m := 1
  n := call.count
  alpha := alpha
  a := call.left
  lda := lda
  x := call.right
  incx := 1
  beta := beta
  y := call.total
  incy := incy

/-- A byte of what is stored. -/
def InTotal (element : DotElement) (call : Arguments) (a : Memory.Address) : Prop :=
  Memory.Within call.total element.arithmetic.type.bytes a

/-- The result has no byte in common with an element of a vector. -/
structure Apart (element : DotElement) (call : Arguments) : Prop where
  left : forall i, i < call.count.toInt.toNat -> forall a,
    Memory.Within
      (Memory.elementAddress element.arithmetic.type call.left (BitVec.ofNat 32 i))
      element.arithmetic.type.bytes a -> ¬ call.InTotal element a
  right : forall i, i < call.count.toInt.toNat -> forall a,
    Memory.Within
      (Memory.elementAddress element.arithmetic.type call.right (BitVec.ofNat 32 i))
      element.arithmetic.type.bytes a -> ¬ call.InTotal element a

variable {order trans lda incy : BitVec 32} {alpha beta : Binary.Pattern .double}

theorem addressA_asMatrix (j : BitVec 32) :
    (call.asMatrix order trans lda incy alpha beta).addressA 0 j =
      Memory.elementAddress (.float .double) call.left j := by
  have hindex : 0 * lda + j = j := by simp
  unfold Gemv.Arguments.addressA asMatrix
  rw [hindex]

theorem addressX_asMatrix (j : BitVec 32) :
    (call.asMatrix order trans lda incy alpha beta).addressX j =
      Memory.elementAddress (.float .double) call.right j := by
  have hindex : j * 1 = j := BitVec.mul_one j
  unfold Gemv.Arguments.addressX asMatrix
  rw [hindex]

theorem addressY_asMatrix :
    (call.asMatrix order trans lda incy alpha beta).addressY 0 = call.total := by
  have hindex : 0 * incy = 0 := by simp
  unfold Gemv.Arguments.addressY asMatrix
  rw [hindex]
  simp [Memory.elementAddress]

/-- The sum of the terms is the row. -/
theorem sum_eq_row (memory : Memory) :
    call.sum .float memory = (call.asMatrix order trans lda incy alpha beta).row memory 0 := by
  have hterm : forall j, call.term .float memory j =
      (call.asMatrix order trans lda incy alpha beta).term memory 0 j := by
    intro j
    rw [Gemv.Arguments.term, addressA_asMatrix, addressX_asMatrix]
    simp only [term, DotElement.arithmetic, Arithmetic.element]
  unfold sum Gemv.Arguments.row
  simp only [hterm, DotElement.arithmetic]
  rfl

/-- The product of one row stores its sum. -/
theorem result_asMatrix (memory : Memory) :
    (call.asMatrix order trans lda incy alpha beta).result memory =
      memory.store call.total (.float .double (call.sum .float memory)) := by
  have hone : (call.asMatrix order trans lda incy alpha beta).result memory =
      (call.asMatrix order trans lda incy alpha beta).storeRow 0 memory := rfl
  rw [hone, Gemv.Arguments.storeRow, addressY_asMatrix, ← sum_eq_row]

theorem inResult_asMatrix {a : Memory.Address} :
    (call.asMatrix order trans lda incy alpha beta).InResult a ↔ call.InTotal .float a := by
  have hplace : (call.asMatrix order trans lda incy alpha beta).addressY (BitVec.ofNat 32 0) =
      call.total :=
    addressY_asMatrix
  constructor
  · rintro ⟨i, hi, ha⟩
    have hfirst : i = 0 := Nat.lt_one_iff.mp hi
    rw [hfirst, hplace] at ha
    exact ha
  · intro ha
    refine ⟨0, Nat.one_pos, ?_⟩
    rw [hplace]
    exact ha

theorem apart_asMatrix (hapart : call.Apart .float) :
    (call.asMatrix order trans lda incy alpha beta).Apart where
  matrix := by
    intro i j hi hj a ha hin
    have hfirst : i = 0 := Nat.lt_one_iff.mp hi
    have hplace : (call.asMatrix order trans lda incy alpha beta).addressA (BitVec.ofNat 32 0)
        (BitVec.ofNat 32 j) = _ :=
      addressA_asMatrix (BitVec.ofNat 32 j)
    rw [hfirst, hplace] at ha
    exact hapart.left j hj a ha (inResult_asMatrix.mp hin)
  vector := by
    intro j hj a ha hin
    rw [addressX_asMatrix] at ha
    exact hapart.right j hj a ha (inResult_asMatrix.mp hin)

/-- Zeroing the result first changes no term and nothing that stays. -/
theorem byteAt_result_asMatrix (hapart : call.Apart .float) (memory : Memory)
    (a : Memory.Address) :
    (call.result .float memory).byteAt a =
      ((call.asMatrix order trans lda incy alpha beta).result memory).byteAt a := by
  have hframe : forall x, ¬ (call.asMatrix order trans lda incy alpha beta).InResult x ->
      (call.cleared .float memory).byteAt x = memory.byteAt x := by
    intro x hx
    exact Memory.byteAt_store memory fun hin => hx (inResult_asMatrix.mpr hin)
  have hrow : (call.asMatrix order trans lda incy alpha beta).row (call.cleared .float memory) 0 =
      (call.asMatrix order trans lda incy alpha beta).row memory 0 :=
    Gemv.Arguments.row_congr (apart_asMatrix hapart) hframe Nat.one_pos
  rw [← sum_eq_row, ← sum_eq_row] at hrow
  rw [result_asMatrix, result, hrow]
  exact Memory.byteAt_store_store memory call.total a _ _

end Arguments
end Dot

/-! ## Synthesized products -/

/-- Products that a provider synthesized agree.  A matrix-vector product leaves the vector that a
matrix-matrix product leaves as a column, but for what is not a number; a dot product leaves what a
matrix-vector product leaves for one row.  What is given for order, scales and distances that are
not used makes no difference. -/
theorem Executable.reductions_agree {σ : Type} {f : Binary.Format} {program : Executable σ}
    {gemv gemm dgemv dot : FuncId}
    (hgemv : program.Synthesized gemv (Provider.kernel .gemv (.ofFormat f) .module))
    (hgemm : program.Synthesized gemm (Provider.kernel .gemm (.ofFormat f) .module))
    (hdgemv : program.Synthesized dgemv (Provider.kernel .gemv (.ofFormat .double) .module))
    (hdot : program.Synthesized dot (Provider.dot .float)) :
    (forall (call : Gemv.Arguments f) (order transA transB : BitVec 32)
        (alpha beta : Binary.Pattern f),
      call.incy = 1 -> transA ≠ 112 -> transB ≠ 112 -> call.Apart ->
        forall (world : World σ) (depth : Nat), exists vector column : Memory,
          program.invoke (depth + 1) gemv call.toList world =
              some ([.int .w32 0], { world with memory := vector }) ∧
            program.invoke (depth + 1) gemm
                (call.asMatrices order transA transB alpha beta).toList world =
              some ([.int .w32 0], { world with memory := column }) ∧
              call.SameColumn world.memory vector column) ∧
    forall (call : Dot.Arguments) (order trans lda incy : BitVec 32)
        (alpha beta : Binary.Pattern .double),
      call.Apart .float -> forall (world : World σ) (depth : Nat), exists total row : Memory,
        program.invoke (depth + 1) dot call.toList world =
            some ([], { world with memory := total }) ∧
          program.invoke (depth + 1) dgemv
              (call.asMatrix order trans lda incy alpha beta).toList world =
            some ([.int .w32 0], { world with memory := row }) ∧
            forall a, total.byteAt a = row.byteAt a := by
  constructor
  · intro call order transA transB alpha beta hstep hA hB hapart world depth
    exact ⟨call.result world.memory, _, Gemv.invoke_synthesized world hgemv call depth,
      Gemm.invoke_synthesized hgemm _ world depth,
      Gemv.Arguments.sameColumn hstep hA hB hapart world.memory⟩
  · intro call order trans lda incy alpha beta hapart world depth
    exact ⟨call.result .float world.memory, _, Dot.invoke_synthesized .float world hdot call depth,
      Gemv.invoke_synthesized world hdgemv _ depth,
      Dot.Arguments.byteAt_result_asMatrix hapart world.memory⟩

/-! ## What is not a number -/

namespace Product

/-- Providers of a module in which the products are made one after another. -/
def first : Provider :=
  Gemm.provider

def second : Provider :=
  (Provider.kernel .gemv (.ofFormat .double) .module).leaves first

def third : Provider :=
  (Provider.kernel .gemm (.ofFormat .double) .module).leaves second

/-- A program with all three products. -/
def program : Executable Unit where
  module := ((Provider.dot .float).leaves third).unit.module
  name := "unit"
  table := .empty

theorem keepsCode_products :
    program.KeepsCode first (Provider.kernel .gemv (.ofFormat .double) .module) { index := 0 }
        (Gemv.procedure .double) ∧
      program.KeepsCode second (Provider.kernel .gemm (.ofFormat .double) .module) { index := 1 }
          (Gemm.procedure .double) ∧
        program.KeepsCode third (Provider.dot .float) { index := 2 } (Dot.procedure .float) := by
  decide +kernel

/-- A row and a column of two elements each, the operands of the sample for matrices. -/
def sample : Gemv.Arguments .double where
  order := 101
  trans := 111
  m := 1
  n := 2
  alpha := 0x3ff0000000000000
  a := 0x1000
  lda := 2
  x := 0x2000
  incx := 1
  beta := 0
  y := 0x3000
  incy := 1

/-- The same operands as vectors. -/
def vectors : Dot.Arguments where
  count := 2
  left := 0x1000
  right := 0x2000
  total := 0x3000

theorem apart_sample : sample.Apart :=
  Gemv.Arguments.Far.apart (by decide +kernel)

theorem far_vectors : forall i, i < vectors.count.toInt.toNat ->
    Memory.Far 8 (Memory.elementAddress (.float .double) vectors.left (BitVec.ofNat 32 i))
        vectors.total ∧
      Memory.Far 8 (Memory.elementAddress (.float .double) vectors.right (BitVec.ofNat 32 i))
        vectors.total := by
  decide +kernel

theorem apart_vectors : vectors.Apart .float where
  left := fun i hi _ ha => Memory.Within.not_of_far (far_vectors i hi).left ha
  right := fun i hi _ ha => Memory.Within.not_of_far (far_vectors i hi).right ha

theorem reductions_agree_sample :
    (exists vector column : Memory,
      program.invoke 1 { index := 0 } sample.toList Gemm.sampleWorld =
          some ([.int .w32 0], { Gemm.sampleWorld with memory := vector }) ∧
        program.invoke 1 { index := 1 } Gemm.sample.toList Gemm.sampleWorld =
          some ([.int .w32 0], { Gemm.sampleWorld with memory := column }) ∧
          sample.SameColumn Gemm.sampleMemory vector column) ∧
      exists total row : Memory,
        program.invoke 1 { index := 2 } vectors.toList Gemm.sampleWorld =
            some ([], { Gemm.sampleWorld with memory := total }) ∧
          program.invoke 1 { index := 0 } (vectors.asMatrix 102 112 7 9 0 0).toList
              Gemm.sampleWorld =
            some ([.int .w32 0], { Gemm.sampleWorld with memory := row }) ∧
            forall a, total.byteAt a = row.byteAt a := by
  rcases keepsCode_products with ⟨hgemv, hgemm, hdot⟩
  rcases Executable.reductions_agree hgemv.synthesized hgemm.synthesized hgemv.synthesized
    hdot.synthesized with ⟨hcolumns, hrows⟩
  refine ⟨?_, ?_⟩
  · exact hcolumns sample 101 111 111 0x3ff0000000000000 0 rfl (by decide) (by decide) apart_sample
      Gemm.sampleWorld 0
  · exact hrows vectors 102 112 7 9 0 0 apart_vectors Gemm.sampleWorld 0

/-- Of two elements that are not numbers, the product of a matrix and a vector passes on the first
one, and the product of matrices the second one. -/
theorem reductions_differ :
    program.Synthesized { index := 0 } (Provider.kernel .gemv (.ofFormat .double) .module) ∧
      program.Synthesized { index := 1 } (Provider.kernel .gemm (.ofFormat .double) .module) ∧
        sample.Apart ∧
          exists vector column : Memory,
            program.invoke 1 { index := 0 } sample.toList Gemm.sampleWorld =
                some ([.int .w32 0], { Gemm.sampleWorld with memory := vector }) ∧
              program.invoke 1 { index := 1 }
                  (sample.asMatrices 101 111 111 0x3ff0000000000000 0).toList Gemm.sampleWorld =
                some ([.int .w32 0], { Gemm.sampleWorld with memory := column }) ∧
                vector.float .double 0x3000 = 0x7ff8000000000011 ∧
                  column.float .double 0x3000 = 0x7ff8000000000022 := by
  rcases keepsCode_products with ⟨hgemv, hgemm, _⟩
  have hplace : Memory.numberAt .double 0x3000 (0 : Nat) = 0x3000 := by decide
  have hrow : sample.row Gemm.sampleMemory (BitVec.ofNat 32 0) = 0x7ff8000000000011 := by
    decide +kernel
  have hvector := (Gemv.Arguments.shows_result rfl apart_sample Gemm.sampleMemory).float 0
    Nat.one_pos
  have hcolumn := (Gemm.Arguments.isProduct_result Gemm.fits_sample Gemm.apart_sample
    Gemm.sampleMemory).element 0 0 (by decide) (by decide)
  rw [hrow] at hvector
  rw [Gemm.sum_sample.left] at hcolumn
  refine ⟨hgemv.synthesized, hgemm.synthesized, apart_sample, _, _,
    Gemv.invoke_synthesized Gemm.sampleWorld hgemv.synthesized sample 0,
    Gemm.invoke_synthesized hgemm.synthesized _ Gemm.sampleWorld 0, ?_, ?_⟩
  · rw [← hplace]
    exact hvector
  · rw [← hplace]
    exact hcolumn

end Product
end Provision
