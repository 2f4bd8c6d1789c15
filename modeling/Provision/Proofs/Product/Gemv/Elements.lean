import Provision.Proofs.Product.Gemv.Run

/-!
# Elements of the matrix-vector product

What the rows leave in memory.  Each row is computed from the memory that the rows before it have
left; where the result lies apart from the operands, this makes no difference.
-/

namespace Provision
namespace Gemv
namespace Arguments

variable {f : Binary.Format} (call : Arguments f)

def rowCount : Nat :=
  call.m.toInt.toNat

def termCount : Nat :=
  call.n.toInt.toNat

/-- A byte of one of the elements that are stored. -/
def InResult (a : Memory.Address) : Prop :=
  exists i, i < call.rowCount ∧
    Memory.Within (call.addressY (BitVec.ofNat 32 i)) (MachineType.float f).bytes a

/-- The result has no byte in common with an element of an operand that is used. -/
structure Apart : Prop where
  matrix : forall i j, i < call.rowCount -> j < call.termCount -> forall a,
    Memory.Within (call.addressA (BitVec.ofNat 32 i) (BitVec.ofNat 32 j))
      (MachineType.float f).bytes a -> ¬ call.InResult a
  vector : forall j, j < call.termCount -> forall a,
    Memory.Within (call.addressX (BitVec.ofNat 32 j)) (MachineType.float f).bytes a ->
      ¬ call.InResult a

/-- Elements that are used start far from those that are stored. -/
def Far : Prop :=
  forall i, i < call.rowCount -> forall j, j < call.termCount -> forall e, e < call.rowCount ->
    Memory.Far (MachineType.float f).bytes
        (call.addressA (BitVec.ofNat 32 i) (BitVec.ofNat 32 j))
        (call.addressY (BitVec.ofNat 32 e)) ∧
      Memory.Far (MachineType.float f).bytes (call.addressX (BitVec.ofNat 32 j))
        (call.addressY (BitVec.ofNat 32 e))

instance : Decidable call.Far :=
  inferInstanceAs (Decidable (forall i, i < call.rowCount -> forall j, j < call.termCount ->
    forall e, e < call.rowCount -> _ ∧ _))

variable {call}

theorem Far.apart (h : call.Far) : call.Apart where
  matrix := by
    rintro i j hi hj a ha ⟨e, he, hin⟩
    exact Memory.Within.not_of_far (h i hi j hj e he).left ha hin
  vector := by
    rintro j hj a ha ⟨e, he, hin⟩
    exact Memory.Within.not_of_far (h e he j hj e he).right ha hin

/-- A row depends on the operands only. -/
theorem row_congr (hapart : call.Apart) {first second : Memory}
    (h : forall a, ¬ call.InResult a -> first.byteAt a = second.byteAt a) {i : Nat}
    (hi : i < call.rowCount) :
    call.row first (BitVec.ofNat 32 i) = call.row second (BitVec.ofNat 32 i) := by
  refine List.foldl_rel (r := fun x y => x = y) rfl ?_
  intro j hj x y hxy
  have hterm := List.mem_range.mp hj
  have hA := Memory.float_congr_at fun a ha => h a (hapart.matrix i j hi hterm a ha)
  have hX := Memory.float_congr_at fun a ha => h a (hapart.vector j hterm a ha)
  show x.add (call.term first _ _) = y.add (call.term second _ _)
  rw [hxy, term, term, hA, hX]

/-- Stores the rows of a memory one after another. -/
def storeRows (call : Arguments f) (memory : Memory) : Memory :=
  (List.range call.rowCount).foldl
    (fun after i =>
      after.store (call.addressY (BitVec.ofNat 32 i))
        (.float f (call.row memory (BitVec.ofNat 32 i))))
    memory

/-- Rows still find the operands as they were before the first store. -/
theorem result_eq_storeRows (hapart : call.Apart) (memory : Memory) :
    call.result memory = call.storeRows memory ∧
      forall a, ¬ call.InResult a -> (call.result memory).byteAt a = memory.byteAt a := by
  refine List.foldl_rel
    (r := fun (after stored : Memory) => after = stored ∧
      forall a, ¬ call.InResult a -> after.byteAt a = memory.byteAt a)
    ⟨rfl, fun _ _ => rfl⟩ ?_
  intro i hi after stored hbefore
  rcases hbefore with ⟨rfl, hframe⟩
  have hrow := row_congr hapart hframe (List.mem_range.mp hi)
  refine ⟨?_, ?_⟩
  · rw [storeRow, hrow]
  · intro a ha
    refine (Memory.byteAt_store _ ?_).trans (hframe a ha)
    exact fun hin => ha ⟨i, List.mem_range.mp hi, hin⟩

/-! ## Results side by side -/

theorem addressY_of_one (hstep : call.incy = 1) {i : Nat} (hi : i < call.rowCount) :
    call.addressY (BitVec.ofNat 32 i) = Memory.numberAt f call.y i := by
  have hplace : BitVec.ofNat 32 i * 1 = BitVec.ofNat 32 i := BitVec.mul_one _
  rw [addressY, hstep, hplace, Memory.elementAddress_float, toInt_ofNat_of_le (Nat.le_of_lt hi)]

/-- The result shows the rows, and nothing else has changed. -/
theorem shows_result (hstep : call.incy = 1) (hapart : call.Apart) (memory : Memory) :
    Memory.Shows call.y call.rowCount memory (call.result memory)
      fun i => call.row memory (BitVec.ofNat 32 i) := by
  have hcount : call.rowCount ≤ 2 ^ 32 := by
    have hbelow := BitVec.two_mul_toInt_lt (x := call.m)
    unfold rowCount
    omega
  have hstores : call.storeRows memory =
      (List.range call.rowCount).foldl
        (fun after (i : Nat) => after.store (Memory.numberAt f call.y i)
          (.float f (call.row memory (BitVec.ofNat 32 i)))) memory := by
    refine List.foldl_rel (r := fun x y => x = y) rfl ?_
    intro i hi x y hxy
    rw [hxy, addressY_of_one hstep (List.mem_range.mp hi)]
  rw [(result_eq_storeRows hapart memory).left, hstores]
  exact Memory.shows_stores f call.y hcount memory _

end Arguments
end Gemv
end Provision
