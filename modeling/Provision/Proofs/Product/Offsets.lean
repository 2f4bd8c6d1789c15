import Provision.Proofs.Code.Counting
import Provision.Proofs.Memory.Numbers

/-!
# Offsets of elements

Offsets are computed in words of 32 bits and taken as signed numbers.  Such an offset is the exact
one where this is small enough, and else another one.  How many elements an operand takes says
which offsets into it are exact.
-/

namespace Provision

/-! ## Words of 32 bits -/

/-- The signed number that a word of 32 bits stands for into which a number is put. -/
def wrapped (z : Int) : Int :=
  z.bmod (2 ^ 32)

theorem wrapped_of_signed {z : Int} (hlower : -2 ^ 31 ≤ z) (hupper : z < 2 ^ 31) :
    wrapped z = z := by
  apply Int.bmod_eq_of_le_mul_two
  · omega
  · omega

theorem wrapped_eq_iff {z : Int} (hz : 0 ≤ z) : wrapped z = z ↔ z < 2 ^ 31 := by
  constructor
  · intro h
    have hbound : wrapped z < (2 ^ 32 + 1) / 2 := Int.bmod_lt (by decide)
    omega
  · intro h
    exact wrapped_of_signed (by omega) h

theorem toInt_mulAdd {x y : BitVec 32} {i j : Nat} (hx : x.toInt = i) (hy : y.toInt = j)
    (stride : BitVec 32) : (x * stride + y).toInt = wrapped (i * stride.toInt + j) := by
  simp [wrapped, BitVec.toInt_add, BitVec.toInt_mul, hx, hy]

theorem toInt_mul_word {x : BitVec 32} {i : Nat} (hx : x.toInt = i) (stride : BitVec 32) :
    (x * stride).toInt = wrapped (i * stride.toInt) := by
  simp [wrapped, BitVec.toInt_mul, hx]

/-! ## Extents -/

/-- Number of elements that some runs of a width take, which start a stride apart. -/
def extent (count stride width : Nat) : Nat :=
  if count = 0 ∨ width = 0 then 0 else (count - 1) * stride + width

theorem lt_extent {count stride width i j : Nat} (hi : i < count) (hj : j < width) :
    i * stride + j < extent count stride width := by
  have hrows : i * stride ≤ (count - 1) * stride := Nat.mul_le_mul_right stride (by omega)
  rw [extent, if_neg (by omega)]
  omega

/-- Offsets into an operand are exact as long as it takes no more elements than can be counted with
a signed word. -/
theorem wrapped_eq_iff_extent (count stride width : Nat) :
    (forall i j : Nat, i < count -> j < width ->
        wrapped (i * stride + j : Nat) = (i * stride + j : Nat)) ↔
      extent count stride width ≤ 2 ^ 31 := by
  constructor
  · intro h
    by_cases hempty : count = 0 ∨ width = 0
    · rw [extent, if_pos hempty]
      exact Nat.zero_le _
    · -- The last element is the one with the largest offset.
      have hlast := h (count - 1) (width - 1) (by omega) (by omega)
      rw [wrapped_eq_iff (Int.natCast_nonneg _)] at hlast
      rw [extent, if_neg hempty]
      omega
  · intro h i j hi hj
    have hlt : i * stride + j < extent count stride width := lt_extent hi hj
    rw [wrapped_eq_iff (Int.natCast_nonneg _)]
    omega

section Words

variable {count width : Nat} {stride : BitVec 32} (hstride : 0 ≤ stride.toInt)
  (hcount : forall i, i < count -> (BitVec.ofNat 32 i).toInt = i)

include hstride hcount

theorem toInt_mulAdd_eq_iff (hwidth : forall j, j < width -> (BitVec.ofNat 32 j).toInt = j) :
    (forall i j : Nat, i < count -> j < width ->
        (BitVec.ofNat 32 i * stride + BitVec.ofNat 32 j).toInt = i * stride.toInt + j) ↔
      extent count stride.toInt.toNat width ≤ 2 ^ 31 := by
  rw [← wrapped_eq_iff_extent]
  refine forall₄_congr fun i j hi hj => ?_
  have hexact : ((i * stride.toInt.toNat + j : Nat) : Int) = i * stride.toInt + j := by
    rw [Int.natCast_add, Int.natCast_mul, Int.toNat_of_nonneg hstride]
  rw [toInt_mulAdd (hcount i hi) (hwidth j hj), hexact]

theorem toInt_mul_eq_iff :
    (forall i : Nat, i < count -> (BitVec.ofNat 32 i * stride).toInt = i * stride.toInt) ↔
      extent count stride.toInt.toNat 1 ≤ 2 ^ 31 := by
  have hfirst : forall j, j < 1 -> (BitVec.ofNat 32 j).toInt = j := by decide
  rw [← toInt_mulAdd_eq_iff hstride hcount hfirst]
  constructor
  · intro h i j hi hj
    have hzero : j = 0 := Nat.lt_one_iff.mp hj
    have hword : BitVec.ofNat 32 i * stride + BitVec.ofNat 32 0 = BitVec.ofNat 32 i * stride :=
      BitVec.add_zero _
    rw [hzero, hword, h i hi]
    simp
  · intro h i hi
    have hword : BitVec.ofNat 32 i * stride + BitVec.ofNat 32 0 = BitVec.ofNat 32 i * stride :=
      BitVec.add_zero _
    have hoffset := h i 0 hi Nat.one_pos
    rw [hword] at hoffset
    simpa using hoffset

end Words

/-! ## Operands that are used -/

/-- Number of elements of an operand that only passes of a loop use. -/
def usedBy (passes size : Nat) : Nat :=
  if passes = 0 then 0 else size

theorem usedBy_le_iff {passes size bound : Nat} :
    usedBy passes size ≤ bound ↔ (0 < passes -> size ≤ bound) := by
  unfold usedBy
  by_cases h : passes = 0
  · simp [h]
  · simp [h, Nat.pos_of_ne_zero h]

theorem usedBy_of_pos {passes : Nat} (h : 0 < passes) (size : Nat) : usedBy passes size = size :=
  if_neg (Nat.ne_of_gt h)

/-! ## Effects of loops -/

theorem flatMap_below {w : Nat} (bound : BitVec w) (effects : BitVec w -> List Effect) :
    (below bound).flatMap effects =
      (List.range bound.toInt.toNat).flatMap fun i => effects (BitVec.ofNat w i) := by
  rw [below, List.flatMap_map]

end Provision
