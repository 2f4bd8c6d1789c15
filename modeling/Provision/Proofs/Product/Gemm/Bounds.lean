import Provision.Proofs.Product.Gemm.Correct
import Provision.Proofs.Product.Offsets

/-!
# Bounds of the matrix-matrix product

Where the operands are small enough, offsets are computed exactly, the whole result is zeroed, and
every access is one to an element of an operand.
-/

namespace Provision
namespace Gemm
namespace Arguments

variable {f : Binary.Format} (call : Arguments f)

/-- Sizes and distances are as they have to be.  Rows of a stored operand are rows of the matrix
unless that is the exchanged one. -/
structure Valid : Prop where
  rows : 0 ≤ call.m.toInt
  columns : 0 ≤ call.n.toInt
  terms : 0 ≤ call.k.toInt
  lda : (if call.transA = 112 then call.m.toInt else call.k.toInt) ≤ call.lda.toInt
  ldb : (if call.transB = 112 then call.k.toInt else call.n.toInt) ≤ call.ldb.toInt
  ldc : call.n.toInt ≤ call.ldc.toInt

/-! ## Offsets -/

/-- Offset of an element of a matrix, or of the matrix exchanged for it, as a number without
bounds. -/
def exactOffset (exchanged : Bool) (stride : Int) (row column : Nat) : Int :=
  if exchanged then column * stride + row else row * stride + column

def offsetA (i p : Nat) : Int :=
  exactOffset (call.transA = 112) call.lda.toInt i p

def offsetB (p j : Nat) : Int :=
  exactOffset (call.transB = 112) call.ldb.toInt p j

def offsetC (i j : Nat) : Int :=
  i * call.ldc.toInt + j

/-- Number of elements to be zeroed. -/
def clearCount : Int :=
  call.m.toInt * call.ldc.toInt

/-- The words in which offsets are computed stand for the offsets, and that for the number of
elements to be zeroed stands for it. -/
structure Exact : Prop where
  count : (call.ldc * call.m).toInt = call.clearCount
  first : 0 < call.columnCount -> forall i p, i < call.rowCount -> p < call.termCount ->
    (offset (call.transA = 112) call.lda (BitVec.ofNat 32 i) (BitVec.ofNat 32 p)).toInt =
      call.offsetA i p
  second : 0 < call.rowCount -> forall p j, p < call.termCount -> j < call.columnCount ->
    (offset (call.transB = 112) call.ldb (BitVec.ofNat 32 p) (BitVec.ofNat 32 j)).toInt =
      call.offsetB p j
  result : 0 < call.termCount -> forall i j, i < call.rowCount -> j < call.columnCount ->
    (BitVec.ofNat 32 i * call.ldc + BitVec.ofNat 32 j).toInt = call.offsetC i j

/-- What the product does where offsets are taken in some way: it zeroes the result, and goes over
rows, terms and columns. -/
def accesses (take : Int -> Int) : List Effect :=
  ((List.range (take call.clearCount).toNat).map fun e : Nat =>
      .store (Memory.numberAt f call.c e) (MachineType.float f).bytes) ++
    (List.range call.rowCount).flatMap fun i =>
      (List.range call.termCount).flatMap fun p =>
        (List.range call.columnCount).flatMap fun j =>
          [ .load (Memory.numberAt f call.a (take (call.offsetA i p))) (MachineType.float f).bytes,
            .load (Memory.numberAt f call.b (take (call.offsetB p j))) (MachineType.float f).bytes,
            .load (Memory.numberAt f call.c (take (call.offsetC i j))) (MachineType.float f).bytes,
            .store (Memory.numberAt f call.c (take (call.offsetC i j)))
              (MachineType.float f).bytes ]

/-! ## Sizes of operands -/

/-- Number of elements of a matrix, or of the matrix exchanged for it. -/
def extentOf (exchanged : Bool) (rows stride columns : Nat) : Nat :=
  if exchanged then extent columns stride rows else extent rows stride columns

/-- Without columns there is no use for the first operand. -/
def sizeA : Nat :=
  usedBy call.columnCount
    (extentOf (call.transA = 112) call.rowCount call.lda.toInt.toNat call.termCount)

/-- Without rows there is no use for the second operand. -/
def sizeB : Nat :=
  usedBy call.rowCount
    (extentOf (call.transB = 112) call.termCount call.ldb.toInt.toNat call.columnCount)

/-- No operand takes more elements than a signed word can number from zero on, and those of the
result can be counted with one. -/
structure Sized : Prop where
  first : call.sizeA ≤ 2 ^ 31
  second : call.sizeB ≤ 2 ^ 31
  result : call.size < 2 ^ 31

/-- An effect is an access to an element of an operand. -/
def Inside (effect : Effect) : Prop :=
  (exists e : Nat, e < call.sizeA ∧
      effect = .load (Memory.numberAt f call.a e) (MachineType.float f).bytes) ∨
    (exists e : Nat, e < call.sizeB ∧
      effect = .load (Memory.numberAt f call.b e) (MachineType.float f).bytes) ∨
    exists e : Nat, e < call.size ∧
      (effect = .load (Memory.numberAt f call.c e) (MachineType.float f).bytes ∨
        effect = .store (Memory.numberAt f call.c e) (MachineType.float f).bytes)

section Exchanged

variable {exchanged : Bool} {rows columns : Nat} {stride : BitVec 32}
  (hstride : 0 ≤ stride.toInt)

include hstride

theorem toInt_offset_eq_iff (exchanged : Bool)
    (hrows : forall i, i < rows -> (BitVec.ofNat 32 i).toInt = i)
    (hcolumns : forall j, j < columns -> (BitVec.ofNat 32 j).toInt = j) :
    (forall i j : Nat, i < rows -> j < columns ->
        (offset exchanged stride (BitVec.ofNat 32 i) (BitVec.ofNat 32 j)).toInt =
          exactOffset exchanged stride.toInt i j) ↔
      extentOf exchanged rows stride.toInt.toNat columns ≤ 2 ^ 31 := by
  cases exchanged with
  | false => exact toInt_mulAdd_eq_iff hstride hrows hcolumns
  | true =>
      have hturned := toInt_mulAdd_eq_iff hstride hcolumns hrows
      constructor
      · exact fun h => hturned.mp fun j i hj hi => h i j hi hj
      · exact fun h i j hi hj => hturned.mpr h j i hj hi

theorem exists_exactOffset {i j : Nat} (hi : i < rows) (hj : j < columns) :
    exists e : Nat, e < extentOf exchanged rows stride.toInt.toNat columns ∧
      exactOffset exchanged stride.toInt i j = e := by
  cases exchanged with
  | false =>
      refine ⟨_, lt_extent hi hj, ?_⟩
      rw [Int.natCast_add, Int.natCast_mul, Int.toNat_of_nonneg hstride]
      rfl
  | true =>
      refine ⟨_, lt_extent hj hi, ?_⟩
      rw [Int.natCast_add, Int.natCast_mul, Int.toNat_of_nonneg hstride]
      rfl

end Exchanged

variable {call} {i j p : Nat}

namespace Valid

theorem lda_nonneg (h : call.Valid) : 0 ≤ call.lda.toInt := by
  refine Int.le_trans ?_ h.lda
  split
  · exact h.rows
  · exact h.terms

theorem ldb_nonneg (h : call.Valid) : 0 ≤ call.ldb.toInt := by
  refine Int.le_trans ?_ h.ldb
  split
  · exact h.terms
  · exact h.columns

theorem ldc_nonneg (h : call.Valid) : 0 ≤ call.ldc.toInt :=
  Int.le_trans h.columns h.ldc

theorem columnCount_le (h : call.Valid) : call.columnCount ≤ call.stride :=
  Int.toNat_le_toNat h.ldc

theorem size_eq (h : call.Valid) : (call.size : Int) = call.clearCount := by
  unfold size rowCount stride clearCount
  rw [Int.natCast_mul, Int.toNat_of_nonneg h.rows, Int.toNat_of_nonneg h.ldc_nonneg]

theorem fits (h : call.Valid) (hresult : call.size < 2 ^ 31) : call.Fits := by
  have hsize : (call.size : Int) = call.m.toInt * call.ldc.toInt := h.size_eq
  exact
    { stride_nonneg := h.ldc_nonneg
      columns_le := h.ldc
      size_lower := by omega
      size_upper := by omega }

theorem toInt_count_iff (h : call.Valid) :
    (call.ldc * call.m).toInt = call.clearCount ↔ call.size < 2 ^ 31 := by
  have hword : (call.ldc * call.m).toInt = wrapped call.size := by
    rw [BitVec.toInt_mul, Int.mul_comm, h.size_eq]
    rfl
  rw [hword, ← h.size_eq, wrapped_eq_iff (Int.natCast_nonneg _)]
  omega

/-- Offsets are exact if the operands are small enough, and only then. -/
theorem exact_iff_sized (h : call.Valid) : call.Exact ↔ call.Sized := by
  have hrow : forall i, i < call.rowCount -> (BitVec.ofNat 32 i).toInt = i :=
    fun _ => toInt_row
  have hterm : forall p, p < call.termCount -> (BitVec.ofNat 32 p).toInt = p :=
    fun _ => toInt_term
  have hcolumn : forall j, j < call.columnCount -> (BitVec.ofNat 32 j).toInt = j :=
    fun _ => toInt_column
  have hfirst := toInt_offset_eq_iff h.lda_nonneg (call.transA = 112) hrow hterm
  have hsecond := toInt_offset_eq_iff h.ldb_nonneg (call.transB = 112) hterm hcolumn
  constructor
  · intro hexact
    exact
      { first := usedBy_le_iff.mpr fun hcolumns => hfirst.mp (hexact.first hcolumns)
        second := usedBy_le_iff.mpr fun hrows => hsecond.mp (hexact.second hrows)
        result := h.toInt_count_iff.mp hexact.count }
  · intro hsized
    have hfits := h.fits hsized.result
    exact
      { count := h.toInt_count_iff.mpr hsized.result
        first := fun hcolumns => hfirst.mpr (usedBy_le_iff.mp hsized.first hcolumns)
        second := fun hrows => hsecond.mpr (usedBy_le_iff.mp hsized.second hrows)
        result := by
          intro _ i j hi hj
          rw [hfits.toInt_place hi hj, Int.natCast_add, Int.natCast_mul, hfits.stride_eq]
          rfl }

theorem exists_offsetA (h : call.Valid) (hi : i < call.rowCount) (hp : p < call.termCount)
    (hcolumns : 0 < call.columnCount) :
    exists e : Nat, e < call.sizeA ∧ call.offsetA i p = e := by
  rw [sizeA, usedBy_of_pos hcolumns]
  exact exists_exactOffset h.lda_nonneg hi hp

theorem exists_offsetB (h : call.Valid) (hp : p < call.termCount) (hj : j < call.columnCount)
    (hrows : 0 < call.rowCount) :
    exists e : Nat, e < call.sizeB ∧ call.offsetB p j = e := by
  rw [sizeB, usedBy_of_pos hrows]
  exact exists_exactOffset h.ldb_nonneg hp hj

theorem exists_offsetC (h : call.Valid) (hi : i < call.rowCount) (hj : j < call.columnCount) :
    exists e : Nat, e < call.size ∧ call.offsetC i j = e := by
  refine ⟨_, Fits.place_lt hi (Nat.lt_of_lt_of_le hj h.columnCount_le), ?_⟩
  rw [Int.natCast_add, Int.natCast_mul, stride, Int.toNat_of_nonneg h.ldc_nonneg]
  rfl

end Valid

/-! ## Accesses -/

theorem effects_eq_accesses (call : Arguments f) : call.effects = call.accesses wrapped := by
  have hcount : (call.ldc * call.m).toInt = wrapped call.clearCount := by
    rw [BitVec.toInt_mul, Int.mul_comm]
    rfl
  unfold effects accesses
  rw [flatMap_below, flatMap_below, hcount, List.map_eq_flatMap]
  congr 1
  · refine List.flatMap_congr ?_
    intro e he
    have hle : e ≤ (call.ldc * call.m).toInt.toNat := by
      rw [hcount]
      exact Nat.le_of_lt (List.mem_range.mp he)
    rw [clears, Memory.elementAddress_float, toInt_ofNat_of_le hle]
  · refine List.flatMap_congr ?_
    intro i hi
    rw [flatMap_below]
    refine List.flatMap_congr ?_
    intro p hp
    rw [flatMap_below]
    refine List.flatMap_congr ?_
    intro j hj
    have hrow := toInt_row (List.mem_range.mp hi)
    have hterm := toInt_term (List.mem_range.mp hp)
    have hcolumn := toInt_column (List.mem_range.mp hj)
    rw [accumulates, addressA, addressB, addressC, Memory.elementAddress_float,
      Memory.elementAddress_float, Memory.elementAddress_float, toInt_offset hrow hterm,
      toInt_offset hterm hcolumn, toInt_mulAdd hrow hcolumn]
    rfl

/-- Where words stand for the offsets, it makes no difference which of them are taken. -/
theorem Exact.accesses_eq (h : call.Exact) : call.accesses wrapped = call.accesses id := by
  have hcount : wrapped call.clearCount = call.clearCount := by
    rw [← h.count, BitVec.toInt_mul]
    exact Int.bmod_bmod
  unfold accesses
  rw [hcount]
  refine congrArg (_ ++ ·) (List.flatMap_congr ?_)
  intro i hi
  refine List.flatMap_congr ?_
  intro p hp
  refine List.flatMap_congr ?_
  intro j hj
  have hi := List.mem_range.mp hi
  have hp := List.mem_range.mp hp
  have hj := List.mem_range.mp hj
  have hA : wrapped (call.offsetA i p) = call.offsetA i p :=
    (toInt_offset (toInt_row hi) (toInt_term hp)).symm.trans
      (h.first (Nat.zero_lt_of_lt hj) i p hi hp)
  have hB : wrapped (call.offsetB p j) = call.offsetB p j :=
    (toInt_offset (toInt_term hp) (toInt_column hj)).symm.trans
      (h.second (Nat.zero_lt_of_lt hi) p j hp hj)
  have hC : wrapped (call.offsetC i j) = call.offsetC i j :=
    (toInt_mulAdd (toInt_row hi) (toInt_column hj) _).symm.trans
      (h.result (Nat.zero_lt_of_lt hp) i j hi hj)
  rw [hA, hB, hC]
  rfl

theorem Valid.inside (h : call.Valid) {effect : Effect} (heffect : effect ∈ call.accesses id) :
    call.Inside effect := by
  rcases List.mem_append.mp heffect with hclear | hnest
  · rcases List.mem_map.mp hclear with ⟨e, he, rfl⟩
    have hlt : e < call.size := by
      have hcount := List.mem_range.mp he
      have hsize := h.size_eq
      rw [id] at hcount
      omega
    exact .inr (.inr ⟨e, hlt, .inr rfl⟩)
  · rcases List.mem_flatMap.mp hnest with ⟨i, hi, hrow⟩
    rcases List.mem_flatMap.mp hrow with ⟨p, hp, hterm⟩
    rcases List.mem_flatMap.mp hterm with ⟨j, hj, haccess⟩
    have hi := List.mem_range.mp hi
    have hp := List.mem_range.mp hp
    have hj := List.mem_range.mp hj
    rcases h.exists_offsetA hi hp (Nat.zero_lt_of_lt hj) with ⟨a, ha, hA⟩
    rcases h.exists_offsetB hp hj (Nat.zero_lt_of_lt hi) with ⟨b, hb, hB⟩
    rcases h.exists_offsetC hi hj with ⟨c, hc, hC⟩
    rw [id, id, id, hA, hB, hC] at haccess
    simp only [List.mem_cons, List.not_mem_nil, or_false] at haccess
    rcases haccess with haccess | haccess | haccess | haccess
    · exact .inl ⟨a, ha, haccess⟩
    · exact .inr (.inl ⟨b, hb, haccess⟩)
    · exact .inr (.inr ⟨c, hc, .inl haccess⟩)
    · exact .inr (.inr ⟨c, hc, .inr haccess⟩)

/-! ## What products depend on -/

/-- The memory in which the sums are added up. -/
def cleared (call : Arguments f) (memory : Memory) : Memory :=
  repeatBelow (call.ldc * call.m) call.clear memory

/-- All elements of the result are zeroed. -/
theorem Valid.float_cleared (h : call.Valid) (hsized : call.Sized) (memory : Memory) {e : Nat}
    (he : e < call.size) :
    (call.cleared memory).float f (Memory.numberAt f call.c e) = Binary.Pattern.zero f := by
  rw [cleared, (shows_cleared (h.fits hsized.result) memory).float e he]
  exact clearAll_apply call he _

/-- Zeroing leaves nothing of what was there before. -/
theorem Valid.byteAt_cleared (h : call.Valid) (hsized : call.Sized) {first second : Memory}
    (helsewhere : call.Elsewhere first second) (a : Memory.Address) :
    (call.cleared first).byteAt a = (call.cleared second).byteAt a := by
  by_cases hin : exists e : Nat, e < call.size ∧ Memory.InNumber f call.c e a
  · rcases hin with ⟨e, he, ha⟩
    refine Memory.byteAt_eq_of_float_eq (f := f) ?_ ha
    rw [h.float_cleared hsized first he, h.float_cleared hsized second he]
  · have hout : forall e : Nat, e < call.size -> ¬ Memory.InNumber f call.c e a :=
      fun e he ha => hin ⟨e, he, ha⟩
    have hfits := h.fits hsized.result
    rw [cleared, cleared, (shows_cleared hfits first).frame a hout,
      (shows_cleared hfits second).frame a hout]
    exact helsewhere a hout

/-- Sums that are added up in memories with the same bytes leave the same bytes. -/
theorem byteAt_overRows_congr {first second : Memory}
    (h : forall a, first.byteAt a = second.byteAt a) (a : Memory.Address) :
    (call.overRows first).byteAt a = (call.overRows second).byteAt a := by
  let r : Memory -> Memory -> Prop := fun x y => forall a, x.byteAt a = y.byteAt a
  have hstep : forall i p j x y, r x y ->
      r (call.accumulate i p j x) (call.accumulate i p j y) := by
    intro i p j x y hxy b
    have hnumber : forall place, x.float f place = y.float f place :=
      fun place => Memory.float_congr_at fun b _ => hxy b
    rw [accumulate, accumulate, hnumber, hnumber, hnumber]
    exact Memory.byteAt_store_congr _ fun _ => hxy b
  have hcolumns : forall i p x y, r x y -> r (call.overColumns i p x) (call.overColumns i p y) :=
    fun i p _ _ hxy => repeatBelow_rel (hstep i p) hxy
  have hterms : forall i x y, r x y -> r (call.overTerms i x) (call.overTerms i y) :=
    fun i _ _ hxy => repeatBelow_rel (hcolumns i) hxy
  have hrows : r (call.overRows first) (call.overRows second) := repeatBelow_rel hterms h
  exact hrows a

end Arguments
end Gemm
end Provision
