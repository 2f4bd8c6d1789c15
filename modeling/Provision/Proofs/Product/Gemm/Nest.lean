import Provision.Proofs.Memory.Numbers
import Provision.Proofs.Product.Gemm.Code

/-!
# Loop nest of the matrix-matrix product

What the code of the matrix-matrix product does to memory, as a nest of loops over stores.  The
code comes to its end for all arguments and on every memory.
-/

namespace Provision

namespace Gemm

/-! ## Arguments -/

/-- The arguments of a matrix-matrix product over numbers of a format. -/
structure Arguments (f : Binary.Format) where
  order : BitVec 32
  transA : BitVec 32
  transB : BitVec 32
  m : BitVec 32
  n : BitVec 32
  k : BitVec 32
  alpha : Binary.Pattern f
  a : Memory.Address
  lda : BitVec 32
  b : Memory.Address
  ldb : BitVec 32
  beta : Binary.Pattern f
  c : Memory.Address
  ldc : BitVec 32

namespace Arguments

variable {f : Binary.Format}

def toList (call : Arguments f) : List Scalar :=
  [ .int .w32 call.order, .int .w32 call.transA, .int .w32 call.transB, .int .w32 call.m,
    .int .w32 call.n, .int .w32 call.k, .float f call.alpha, .address call.a, .int .w32 call.lda,
    .address call.b, .int .w32 call.ldb, .float f call.beta, .address call.c, .int .w32 call.ldc ]

/-! ## Elements -/

/-- Offset of an element of a matrix, or of the matrix exchanged for it. -/
def offset (exchanged : Bool) (stride row column : BitVec 32) : BitVec 32 :=
  if exchanged then column * stride + row else row * stride + column

/-- Address of the element of the first operand in a row. -/
def addressA (call : Arguments f) (i p : BitVec 32) : Memory.Address :=
  Memory.elementAddress (.float f) call.a (offset (call.transA = 112) call.lda i p)

/-- Address of the element of the second operand in a column. -/
def addressB (call : Arguments f) (p j : BitVec 32) : Memory.Address :=
  Memory.elementAddress (.float f) call.b (offset (call.transB = 112) call.ldb p j)

def addressC (call : Arguments f) (i j : BitVec 32) : Memory.Address :=
  Memory.elementAddress (.float f) call.c (i * call.ldc + j)

/-! ## Loops -/

def clear (call : Arguments f) (index : BitVec 32) (memory : Memory) : Memory :=
  memory.store (Memory.elementAddress (.float f) call.c index) (.float f (Binary.Pattern.zero f))

def accumulate (call : Arguments f) (i p j : BitVec 32) (memory : Memory) : Memory :=
  memory.store (call.addressC i j)
    (.float f
      (((memory.float f (call.addressA i p)).mul (memory.float f (call.addressB p j))).add
        (memory.float f (call.addressC i j))))

def overColumns (call : Arguments f) (i p : BitVec 32) : Memory -> Memory :=
  repeatBelow call.n fun j => call.accumulate i p j

def overTerms (call : Arguments f) (i : BitVec 32) : Memory -> Memory :=
  repeatBelow call.k fun p => call.overColumns i p

def overRows (call : Arguments f) : Memory -> Memory :=
  repeatBelow call.m fun i => call.overTerms i

/-- The memory that the product leaves. -/
def result (call : Arguments f) (memory : Memory) : Memory :=
  call.overRows (repeatBelow (call.ldc * call.m) call.clear memory)

/-! ## Effects -/

def clears (call : Arguments f) (index : BitVec 32) : List Effect :=
  [.store (Memory.elementAddress (.float f) call.c index) (MachineType.float f).bytes]

def accumulates (call : Arguments f) (i p j : BitVec 32) : List Effect :=
  [ .load (call.addressA i p) (MachineType.float f).bytes,
    .load (call.addressB p j) (MachineType.float f).bytes,
    .load (call.addressC i j) (MachineType.float f).bytes,
    .store (call.addressC i j) (MachineType.float f).bytes ]

/-- What the product does: it zeroes the result, and goes over rows, terms and columns. -/
def effects (call : Arguments f) : List Effect :=
  (below (call.ldc * call.m)).flatMap call.clears ++
    (below call.m).flatMap fun i =>
      (below call.k).flatMap fun p => (below call.n).flatMap fun j => call.accumulates i p j

end Arguments

/-! ## Frames -/

variable {f : Binary.Format} {call : Arguments f} {frame after : Frame}

/-- A frame holds the arguments that are used, the two flags and the number of elements to be
zeroed. -/
structure Holds (call : Arguments f) (frame : Frame) : Prop where
  m : frame.value? 3 = some (.int .w32 call.m)
  n : frame.value? 4 = some (.int .w32 call.n)
  k : frame.value? 5 = some (.int .w32 call.k)
  a : frame.value? 7 = some (.address call.a)
  lda : frame.value? 8 = some (.int .w32 call.lda)
  b : frame.value? 9 = some (.address call.b)
  ldb : frame.value? 10 = some (.int .w32 call.ldb)
  c : frame.value? 12 = some (.address call.c)
  ldc : frame.value? 13 = some (.int .w32 call.ldc)
  flagA : frame.value? 14 = some (.truth (call.transA = 112))
  flagB : frame.value? 15 = some (.truth (call.transB = 112))
  count : frame.value? 16 = some (.int .w32 (call.ldc * call.m))

theorem Holds.keeps (h : Holds call frame) {first : ValueId} (hkeeps : frame.Keeps first after)
    (hfirst : 17 ≤ first) : Holds call after := by
  have hstill : forall {value : ValueId} {x : Scalar}, frame.value? value = some x ->
      value < 17 -> after.value? value = some x :=
    fun hvalue hlt => hkeeps.value? hvalue (Nat.lt_of_lt_of_le hlt hfirst)
  exact
    { m := hstill h.m (by decide)
      n := hstill h.n (by decide)
      k := hstill h.k (by decide)
      a := hstill h.a (by decide)
      lda := hstill h.lda (by decide)
      b := hstill h.b (by decide)
      ldb := hstill h.ldb (by decide)
      c := hstill h.c (by decide)
      ldc := hstill h.ldc (by decide)
      flagA := hstill h.flagA (by decide)
      flagB := hstill h.flagB (by decide)
      count := hstill h.count (by decide) }

end Gemm
end Provision
