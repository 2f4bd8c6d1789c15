import Provision.Memory

/-!
# Laws of memory

A byte reads back where it was written, and writing a run of bytes changes only that run.
-/

namespace Provision

/-! ## Trees -/

namespace ByteTree

theorem get_blank (depth key : Nat) : blank.get depth key = 0 := by
  cases depth
  · rfl
  · rfl

theorem get_set_self (value : BitVec 8) (depth key : Nat) (tree : ByteTree) :
    (tree.set value depth key).get depth key = value := by
  induction depth generalizing key tree with
  | zero => rfl
  | succ depth ih =>
      by_cases hparity : key % 2 = 0
      · cases tree
        all_goals simp only [set, hparity, if_pos, get]
        all_goals exact ih _ _
      · cases tree
        all_goals simp only [set, hparity, if_false, get]
        all_goals exact ih _ _

theorem get_set_of_ne (value : BitVec 8) (depth : Nat) {key other : Nat} (tree : ByteTree)
    (hkey : key < 2 ^ depth) (hother : other < 2 ^ depth) (hne : other ≠ key) :
    (tree.set value depth key).get depth other = tree.get depth other := by
  induction depth generalizing key other tree with
  | zero =>
      have hzero : other = key := by
        simp only [Nat.pow_zero] at hkey hother
        omega
      exact absurd hzero hne
  | succ depth ih =>
      have hkeyHalf : key / 2 < 2 ^ depth := by
        rw [Nat.pow_succ] at hkey
        omega
      have hotherHalf : other / 2 < 2 ^ depth := by
        rw [Nat.pow_succ] at hother
        omega
      by_cases hk : key % 2 = 0
      · by_cases ho : other % 2 = 0
        · have hhalf : other / 2 ≠ key / 2 := by omega
          cases tree with
          | blank =>
              simp only [set, hk, ho, if_pos, get]
              rw [ih _ hkeyHalf hotherHalf hhalf]
              exact get_blank depth (other / 2)
          | byte old =>
              simp only [set, hk, ho, if_pos, get]
              rw [ih _ hkeyHalf hotherHalf hhalf]
              exact get_blank depth (other / 2)
          | fork even odd =>
              simp only [set, hk, ho, if_pos, get]
              exact ih _ hkeyHalf hotherHalf hhalf
        · cases tree
          all_goals simp only [set, hk, ho, if_pos, if_false, get]
      · by_cases ho : other % 2 = 0
        · cases tree
          all_goals simp only [set, hk, ho, if_pos, if_false, get]
        · have hhalf : other / 2 ≠ key / 2 := by omega
          cases tree with
          | blank =>
              simp only [set, hk, ho, if_false, get]
              rw [ih _ hkeyHalf hotherHalf hhalf]
              exact get_blank depth (other / 2)
          | byte old =>
              simp only [set, hk, ho, if_false, get]
              rw [ih _ hkeyHalf hotherHalf hhalf]
              exact get_blank depth (other / 2)
          | fork even odd =>
              simp only [set, hk, ho, if_false, get]
              exact ih _ hkeyHalf hotherHalf hhalf

end ByteTree

namespace Memory

/-! ## Bytes -/

theorem byteAt_setByte_self (memory : Memory) (a : Address) (value : BitVec 8) :
    (memory.setByte a value).byteAt a = value :=
  ByteTree.get_set_self value 64 a.toNat memory.bytes

theorem byteAt_setByte_of_ne (memory : Memory) {a b : Address} (value : BitVec 8) (h : b ≠ a) :
    (memory.setByte a value).byteAt b = memory.byteAt b := by
  apply ByteTree.get_set_of_ne
  · exact a.isLt
  · exact b.isLt
  · intro heq
    exact h (BitVec.eq_of_toNat_eq heq)

/-! ## Runs of bytes -/

/-- Whether an address lies in the run of `count` bytes from `a`, which may wrap. -/
def Within (a : Address) (count : Nat) (b : Address) : Prop :=
  (b - a).toNat < count

theorem not_within_succ {a b : Address} {count : Nat} (h : ¬ Within a (count + 1) b) :
    b ≠ a ∧ ¬ Within (a + 1) count b := by
  unfold Within at *
  have hne : b ≠ a := by
    intro heq
    subst heq
    simp at h
  refine ⟨hne, ?_⟩
  have hpos : (b - a).toNat ≠ 0 := by
    intro hzero
    have hsub : b - a = 0#64 := BitVec.eq_of_toNat_eq hzero
    have hback := BitVec.sub_add_cancel b a
    rw [hsub, BitVec.zero_add] at hback
    exact hne hback.symm
  have hstep : (b - (a + 1)).toNat = (b - a).toNat - 1 := by
    bv_omega
  rw [hstep]
  omega

/-- Writing a run of bytes changes only that run. -/
theorem byteAt_write_of_not_within (memory : Memory) (a : Address) (count n : Nat) (b : Address)
    (h : ¬ Within a count b) : (memory.write a count n).byteAt b = memory.byteAt b := by
  induction count generalizing memory a n with
  | zero => rfl
  | succ count ih =>
      have hparts := not_within_succ h
      simp only [write]
      rw [ih _ _ _ hparts.right]
      exact byteAt_setByte_of_ne memory _ hparts.left

theorem read_congr {first second : Memory} (a : Address) (count : Nat) (hcount : count ≤ 2 ^ 64)
    (h : forall b, Within a count b -> first.byteAt b = second.byteAt b) :
    first.read a count = second.read a count := by
  induction count generalizing a with
  | zero => rfl
  | succ count ih =>
      simp only [read]
      have hhead : first.byteAt a = second.byteAt a := by
        apply h
        simp [Within]
      have htail : first.read (a + 1) count = second.read (a + 1) count := by
        apply ih (a + 1) (by omega)
        intro b hb
        apply h
        by_cases hin : Within a (count + 1) b
        · exact hin
        · exact absurd hb (not_within_succ hin).right
      rw [hhead, htail]

/-- A number reads back from the run it was written to, as far as the run holds it. -/
theorem read_write_self (memory : Memory) (a : Address) (count n : Nat) (hcount : count ≤ 2 ^ 64) :
    (memory.write a count n).read a count = n % 256 ^ count := by
  induction count generalizing memory a n with
  | zero => simp [read, Nat.mod_one]
  | succ count ih =>
      have houtside : ¬ Within (a + 1) count a := by
        unfold Within
        bv_omega
      simp only [write, read]
      rw [ih _ _ _ (by omega), byteAt_write_of_not_within _ _ _ _ _ houtside, byteAt_setByte_self]
      rw [Nat.pow_succ, Nat.mul_comm (256 ^ count) 256, Nat.mod_mul]
      simp

/-- What is written to a run leaves a disjoint run as it was. -/
theorem read_write_of_disjoint (memory : Memory) {a b : Address} {count written : Nat} (n : Nat)
    (hcount : count ≤ 2 ^ 64) (h : forall x, Within b count x -> ¬ Within a written x) :
    (memory.write a written n).read b count = memory.read b count := by
  apply read_congr b count hcount
  intro x hx
  exact byteAt_write_of_not_within memory a written n x (h x hx)

/-! ## Values -/

theorem bytes_le (type : MachineType) : type.bytes ≤ 16 := by
  cases type with
  | int width =>
      cases width
      all_goals decide
  | float format =>
      cases format
      all_goals decide

theorem load_store_self (memory : Memory) (a : Address) (value : Scalar) :
    (memory.store a value).load value.type a = value := by
  have hbound := bytes_le value.type
  unfold load store
  rw [read_write_self memory a value.type.bytes value.toNat (by omega)]
  exact Scalar.ofNat_toNat_mod value

theorem load_store_of_disjoint (memory : Memory) {a b : Address} (value : Scalar)
    (type : MachineType)
    (h : forall x, Within b type.bytes x -> ¬ Within a value.type.bytes x) :
    (memory.store a value).load type b = memory.load type b := by
  have hbound := bytes_le type
  unfold load store
  rw [read_write_of_disjoint memory value.toNat (by omega) h]

end Memory
end Provision
