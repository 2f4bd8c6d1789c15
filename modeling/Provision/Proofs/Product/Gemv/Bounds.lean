import Provision.Proofs.Product.Gemv.Correct

/-!
# Bounds of the matrix-vector product

Where the operands are small enough, offsets are computed exactly, and every access is one to an
element of an operand.
-/

namespace Provision
namespace Gemv
namespace Arguments

variable {f : Binary.Format} (call : Arguments f)

/-- Sizes and distances are as they have to be. -/
structure Valid : Prop where
  rows : 0 ≤ call.m.toInt
  columns : 0 ≤ call.n.toInt
  lda : call.n.toInt ≤ call.lda.toInt
  incx : 1 ≤ call.incx.toInt
  incy : 1 ≤ call.incy.toInt

/-! ## Sizes of operands -/

/-- Number of elements of the matrix, from the first one that is used to the last one. -/
def sizeA : Nat :=
  extent call.rowCount call.lda.toInt.toNat call.termCount

/-- Without rows there is no use for the vector. -/
def sizeX : Nat :=
  usedBy call.rowCount (extent call.termCount call.incx.toInt.toNat 1)

def sizeY : Nat :=
  extent call.rowCount call.incy.toInt.toNat 1

/-- No operand takes more elements than a signed word can number from zero on. -/
structure Sized : Prop where
  matrix : call.sizeA ≤ 2 ^ 31
  vector : call.sizeX ≤ 2 ^ 31
  result : call.sizeY ≤ 2 ^ 31

/-- The words in which offsets are computed stand for the offsets. -/
structure Exact : Prop where
  matrix : forall i j, i < call.rowCount -> j < call.termCount ->
    (BitVec.ofNat 32 i * call.lda + BitVec.ofNat 32 j).toInt = call.offsetA i j
  vector : 0 < call.rowCount -> forall j, j < call.termCount ->
    (BitVec.ofNat 32 j * call.incx).toInt = call.offsetX j
  result : forall i, i < call.rowCount ->
    (BitVec.ofNat 32 i * call.incy).toInt = call.offsetY i

/-- An effect is an access to an element of an operand. -/
def Inside (effect : Effect) : Prop :=
  (exists e : Nat, e < call.sizeA ∧
      effect = .load (Memory.numberAt f call.a e) (MachineType.float f).bytes) ∨
    (exists e : Nat, e < call.sizeX ∧
      effect = .load (Memory.numberAt f call.x e) (MachineType.float f).bytes) ∨
    exists e : Nat, e < call.sizeY ∧
      effect = .store (Memory.numberAt f call.y e) (MachineType.float f).bytes

variable {call}

namespace Valid

theorem lda_nonneg (h : call.Valid) : 0 ≤ call.lda.toInt :=
  Int.le_trans h.columns h.lda

theorem incx_nonneg (h : call.Valid) : 0 ≤ call.incx.toInt :=
  Int.le_trans (by decide) h.incx

theorem incy_nonneg (h : call.Valid) : 0 ≤ call.incy.toInt :=
  Int.le_trans (by decide) h.incy

/-- Offsets are exact if the operands are small enough, and only then. -/
theorem exact_iff_sized (h : call.Valid) : call.Exact ↔ call.Sized := by
  have hrow : forall i, i < call.rowCount -> (BitVec.ofNat 32 i).toInt = i :=
    fun _ => toInt_rowIndex
  have hterm : forall j, j < call.termCount -> (BitVec.ofNat 32 j).toInt = j :=
    fun _ => toInt_termIndex
  have hmatrix := toInt_mulAdd_eq_iff h.lda_nonneg hrow hterm
  have hvector := toInt_mul_eq_iff h.incx_nonneg hterm
  have hresult := toInt_mul_eq_iff h.incy_nonneg hrow
  constructor
  · intro hexact
    exact
      { matrix := hmatrix.mp hexact.matrix
        vector := usedBy_le_iff.mpr fun hrows => hvector.mp (hexact.vector hrows)
        result := hresult.mp hexact.result }
  · intro hsized
    exact
      { matrix := hmatrix.mpr hsized.matrix
        vector := fun hrows => hvector.mpr (usedBy_le_iff.mp hsized.vector hrows)
        result := hresult.mpr hsized.result }

end Valid

/-! ## Accesses -/

/-- Where words stand for the offsets, it makes no difference which of them are taken. -/
theorem Exact.accesses_eq (h : call.Exact) : call.accesses wrapped = call.accesses id := by
  refine List.flatMap_congr ?_
  intro i hi
  have hrow := List.mem_range.mp hi
  have hresult : wrapped (call.offsetY i) = call.offsetY i :=
    (toInt_mul_word (toInt_rowIndex hrow) _).symm.trans (h.result i hrow)
  rw [hresult]
  refine congrArg (· ++ _) (List.flatMap_congr ?_)
  intro j hj
  have hterm := List.mem_range.mp hj
  have hmatrix : wrapped (call.offsetA i j) = call.offsetA i j :=
    (toInt_mulAdd (toInt_rowIndex hrow) (toInt_termIndex hterm) _).symm.trans
      (h.matrix i j hrow hterm)
  have hvector : wrapped (call.offsetX j) = call.offsetX j :=
    (toInt_mul_word (toInt_termIndex hterm) _).symm.trans
      (h.vector (Nat.zero_lt_of_lt hrow) j hterm)
  rw [hmatrix, hvector]
  rfl

theorem Valid.inside (h : call.Valid) {effect : Effect} (heffect : effect ∈ call.accesses id) :
    call.Inside effect := by
  rcases List.mem_flatMap.mp heffect with ⟨i, hi, hrowEffect⟩
  have hrow := List.mem_range.mp hi
  rcases List.mem_append.mp hrowEffect with hterms | hstore
  · rcases List.mem_flatMap.mp hterms with ⟨j, hj, hload⟩
    have hterm := List.mem_range.mp hj
    simp only [List.mem_cons, List.not_mem_nil, or_false] at hload
    rcases hload with hA | hX
    · refine .inl ⟨_, lt_extent hrow hterm, ?_⟩
      rw [hA, id, offsetA, Int.natCast_add, Int.natCast_mul, Int.toNat_of_nonneg h.lda_nonneg]
    · refine .inr (.inl ⟨j * call.incx.toInt.toNat + 0, ?_, ?_⟩)
      · rw [sizeX, usedBy_of_pos (Nat.zero_lt_of_lt hrow)]
        exact lt_extent hterm Nat.one_pos
      · rw [hX, id, offsetX, Nat.add_zero, Int.natCast_mul, Int.toNat_of_nonneg h.incx_nonneg]
  · refine .inr (.inr ⟨i * call.incy.toInt.toNat + 0, lt_extent hrow Nat.one_pos, ?_⟩)
    rw [List.mem_singleton.mp hstore, id, offsetY, Nat.add_zero, Int.natCast_mul,
      Int.toNat_of_nonneg h.incy_nonneg]

end Arguments
end Gemv
end Provision
