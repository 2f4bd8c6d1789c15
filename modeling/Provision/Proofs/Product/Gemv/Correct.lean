import Provision.Proofs.Product.Agreement
import Provision.Proofs.Product.Offsets

/-!
# Correctness of the matrix-vector product

Running the matrix-vector product that a provider synthesized stores the sum of every row, one row
after another, and does nothing else to memory.
-/

namespace Provision
namespace Gemv

variable {f : Binary.Format}

namespace Arguments

variable (call : Arguments f)

/-! ## Offsets and places -/

def offsetA (i j : Nat) : Int :=
  i * call.lda.toInt + j

def offsetX (j : Nat) : Int :=
  j * call.incx.toInt

def offsetY (i : Nat) : Int :=
  i * call.incy.toInt

/-- The element of the matrix lies where the offset says that a word of 32 bits holds. -/
def placeA (i j : Nat) : Memory.Address :=
  Memory.numberAt f call.a (wrapped (call.offsetA i j))

def placeX (j : Nat) : Memory.Address :=
  Memory.numberAt f call.x (wrapped (call.offsetX j))

def placeY (i : Nat) : Memory.Address :=
  Memory.numberAt f call.y (wrapped (call.offsetY i))

/-- The terms of a row are added up from zero on, each one behind the sum so far. -/
def sum (memory : Memory) (i : Nat) : Binary.Pattern f :=
  (List.range call.termCount).foldl
    (fun sum j =>
      sum.add ((memory.float f (call.placeA i j)).mul (memory.float f (call.placeX j))))
    (Binary.Pattern.zero f)

/-- Stores the sums of a memory row by row. -/
def stored (memory : Memory) : Memory :=
  memory.storeEach call.rowCount call.placeY (call.sum memory)

/-- What the product does where offsets are taken in some way. -/
def accesses (take : Int -> Int) : List Effect :=
  (List.range call.rowCount).flatMap fun i =>
    ((List.range call.termCount).flatMap fun j =>
      [ .load (Memory.numberAt f call.a (take (call.offsetA i j))) (MachineType.float f).bytes,
        .load (Memory.numberAt f call.x (take (call.offsetX j))) (MachineType.float f).bytes ]) ++
    [ .store (Memory.numberAt f call.y (take (call.offsetY i))) (MachineType.float f).bytes ]

variable {call} {i j : Nat}

theorem toInt_rowIndex (hi : i < call.rowCount) : (BitVec.ofNat 32 i).toInt = i :=
  toInt_ofNat_of_le (Nat.le_of_lt hi)

theorem toInt_termIndex (hj : j < call.termCount) : (BitVec.ofNat 32 j).toInt = j :=
  toInt_ofNat_of_le (Nat.le_of_lt hj)

theorem addressA_eq_placeA (hi : i < call.rowCount) (hj : j < call.termCount) :
    call.addressA (BitVec.ofNat 32 i) (BitVec.ofNat 32 j) = call.placeA i j := by
  rw [addressA, Memory.elementAddress_float,
    toInt_mulAdd (toInt_rowIndex hi) (toInt_termIndex hj)]
  rfl

theorem addressX_eq_placeX (hj : j < call.termCount) :
    call.addressX (BitVec.ofNat 32 j) = call.placeX j := by
  rw [addressX, Memory.elementAddress_float, toInt_mul_word (toInt_termIndex hj)]
  rfl

theorem addressY_eq_placeY (hi : i < call.rowCount) :
    call.addressY (BitVec.ofNat 32 i) = call.placeY i := by
  rw [addressY, Memory.elementAddress_float, toInt_mul_word (toInt_rowIndex hi)]
  rfl

theorem row_eq_sum (memory : Memory) (hi : i < call.rowCount) :
    call.row memory (BitVec.ofNat 32 i) = call.sum memory i := by
  refine List.foldl_rel (r := fun x y => x = y) rfl ?_
  intro j hj x y hxy
  have hterm := List.mem_range.mp hj
  show x.add (call.term memory _ _) = _
  rw [hxy, term, addressA_eq_placeA hi hterm, addressX_eq_placeX hterm]

theorem effects_eq_accesses (call : Arguments f) : call.effects = call.accesses wrapped := by
  unfold effects accesses
  rw [flatMap_below]
  refine List.flatMap_congr ?_
  intro i hi
  have hrow := List.mem_range.mp hi
  rw [rowEffects, flatMap_below, addressY_eq_placeY hrow]
  refine congrArg (· ++ _) (List.flatMap_congr ?_)
  intro j hj
  have hterm := List.mem_range.mp hj
  rw [accumulates, addressA_eq_placeA hrow hterm, addressX_eq_placeX hterm]
  rfl

/-! ## What is stored -/

theorem storeRows_eq_stored (memory : Memory) : call.storeRows memory = call.stored memory := by
  refine List.foldl_rel (r := fun x y => x = y) rfl ?_
  intro i hi x y hxy
  have hrow := List.mem_range.mp hi
  rw [hxy, addressY_eq_placeY hrow, row_eq_sum memory hrow]

theorem result_eq_stored (hapart : call.Apart) (memory : Memory) :
    call.result memory = call.stored memory :=
  (result_eq_storeRows hapart memory).left.trans (storeRows_eq_stored memory)

/-- A product without terms stores zeros. -/
theorem float_stored_of_termCount (hterms : call.termCount = 0) (memory : Memory)
    (hi : i < call.rowCount) :
    (call.stored memory).float f (call.placeY i) = Binary.Pattern.zero f := by
  have hzero : call.sum memory = fun _ => Binary.Pattern.zero f := by
    funext i
    rw [sum, hterms]
    rfl
  rw [stored, hzero]
  exact Memory.float_storeEach_zero call.rowCount call.placeY memory hi

/-- What was stored before in the place of the result makes no difference. -/
theorem byteAt_stored_congr (hapart : call.Apart) {first second : Memory}
    (h : forall a, ¬ call.InResult a -> first.byteAt a = second.byteAt a) (a : Memory.Address) :
    (call.stored first).byteAt a = (call.stored second).byteAt a := by
  have hsame : call.stored first =
      first.storeEach call.rowCount call.placeY (call.sum second) := by
    refine List.foldl_rel (r := fun x y => x = y) rfl ?_
    intro i hi x y hxy
    have hrow := List.mem_range.mp hi
    rw [hxy, ← row_eq_sum first hrow, ← row_eq_sum second hrow, row_congr hapart h hrow]
  rw [hsame]
  refine Memory.byteAt_storeEach_congr call.rowCount call.placeY _ fun hout => h a ?_
  rintro ⟨i, hi, hin⟩
  rw [addressY_eq_placeY hi] at hin
  exact hout i hi hin

end Arguments

/-! ## Synthesized products -/

/-- A synthesized product comes to its end and returns zero.  It stores the sums of the rows one
after another, where offsets are signed words, and changes nothing else.  Without rows it touches no
memory, and without terms it stores zeros; whatever order, transposition, scales and old result are
given, it leaves the same. -/
theorem stores_sums {σ : Type} {program : Executable σ} {id : FuncId}
    (hmade : program.Synthesized id (Provider.kernel .gemv (.ofFormat f) .module))
    (call : Arguments f) (hapart : call.Apart) (world : World σ) (depth : Nat) :
    exists after : Memory,
      program.invoke (depth + 1) id call.toList world =
          some ([.int .w32 0], { world with memory := after }) ∧
        program.trace (depth + 1) id call.toList world = call.accesses wrapped ∧
        after = call.stored world.memory ∧
        (forall a, ¬ call.InResult a -> after.byteAt a = world.memory.byteAt a) ∧
        (call.m.toInt ≤ 0 ->
          program.trace (depth + 1) id call.toList world = [] ∧ after = world.memory) ∧
        (call.n.toInt ≤ 0 -> forall i, i < call.rowCount ->
          after.float f (call.placeY i) = Binary.Pattern.zero f) ∧
        forall (order trans : BitVec 32) (alpha beta : Binary.Pattern f) (other : World σ),
          (forall a, ¬ call.InResult a -> world.memory.byteAt a = other.memory.byteAt a) ->
            exists same : Memory,
              program.invoke (depth + 1) id
                  { call with order := order, trans := trans, alpha := alpha,
                              beta := beta }.toList other =
                some ([.int .w32 0], { other with memory := same }) ∧
              forall a, same.byteAt a = after.byteAt a := by
  have hreturns := returns_synthesized world hmade call depth
  have hresult := Arguments.result_eq_stored hapart world.memory
  have htrace := hreturns.does.trans call.effects_eq_accesses
  refine ⟨call.stored world.memory, ?_, htrace, rfl, ?_, ?_, ?_, ?_⟩
  · rw [hreturns.runs, World.onMemory, hresult]
  · rw [← hresult]
    exact (Arguments.result_eq_storeRows hapart world.memory).right
  · intro hm
    have hrows : call.rowCount = 0 := Int.toNat_of_nonpos hm
    rw [htrace, Arguments.accesses, Arguments.stored, hrows]
    exact ⟨rfl, rfl⟩
  · intro hn i hi
    exact Arguments.float_stored_of_termCount (Int.toNat_of_nonpos hn) world.memory hi
  · intro order trans alpha beta other helsewhere
    let changed : Arguments f :=
      { call with order := order, trans := trans, alpha := alpha, beta := beta }
    refine ⟨changed.stored other.memory, ?_, ?_⟩
    · have hapartChanged : changed.Apart := ⟨hapart.matrix, hapart.vector⟩
      rw [(returns_synthesized other hmade changed depth).runs, World.onMemory,
        Arguments.result_eq_stored hapartChanged]
    · intro a
      exact (Arguments.byteAt_stored_congr hapart helsewhere a).symm

/-- A matrix of two rows times a vector that is gone through backwards.  The elements of the result
lie one element apart. -/
def strided : Arguments .double where
  order := 102
  trans := 112
  m := 2
  n := 2
  alpha := 0
  a := 0x1000
  lda := 2
  x := 0x2008
  incx := -1
  beta := 0x3ff0000000000000
  y := 0x3000
  incy := 2

def stridedWorld : World Unit where
  memory :=
    ((Memory.empty.storeEach 4 (fun i => Memory.numberAt .double 0x1000 i)
      fun i => .ofInt .double (i + 1)).storeEach 2 (fun i => Memory.numberAt .double 0x2000 i)
        fun i => .ofInt .double (i + 5)).storeEach 3 (fun i => Memory.numberAt .double 0x3000 i)
          fun i => .ofInt .double (i + 7)
  stack := 0
  host := ()

theorem stores_sums_strided :
    exists after : Memory,
      Product.program.invoke 1 { index := 0 } strided.toList stridedWorld =
          some ([.int .w32 0], { stridedWorld with memory := after }) ∧
        after.float .double (strided.placeY 0) = .ofInt .double 16 ∧
        after.float .double (strided.placeY 1) = .ofInt .double 38 ∧
        after.float .double (Memory.numberAt .double strided.y 1) = .ofInt .double 8 := by
  have hapart : strided.Apart := Arguments.Far.apart (by decide +kernel)
  rcases stores_sums Product.keepsCode_products.left.synthesized strided hapart stridedWorld 0 with
    ⟨after, hruns, _, hstored, _⟩
  refine ⟨after, hruns, ?_⟩
  rw [hstored]
  decide +kernel

end Gemv
end Provision
