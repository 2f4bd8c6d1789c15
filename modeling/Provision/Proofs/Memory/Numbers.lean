import Mathlib.Logic.Function.Basic
import Provision.Memory.Laws
import Provision.Proofs.Code.Block

/-!
# Numbers side by side

Numbers of a format that lie in memory one after another.  What is stored as one of them changes no
other one, and no byte elsewhere.  Integers in memory are numbers that stand alone.
-/

namespace Provision
namespace Memory

variable {f : Binary.Format}

/-! ## Numbers of a format -/

/-- The number that is stored at an address. -/
def float (f : Binary.Format) (memory : Memory) (a : Address) : Binary.Pattern f :=
  BitVec.ofNat f.bits (memory.read a (MachineType.float f).bytes)

theorem load_float (f : Binary.Format) (memory : Memory) (a : Address) :
    memory.load (.float f) a = .float f (memory.float f a) := rfl

theorem float_store_self (memory : Memory) (a : Address) (x : Binary.Pattern f) :
    (memory.store a (.float f x)).float f a = x := by
  have hload := load_store_self memory a (.float f x)
  rw [show (Scalar.float f x).type = .float f from rfl, load_float] at hload
  simpa using hload

/-! ## Integers -/

/-- The integer of a width that is stored at an address. -/
def integer (width : Width) (memory : Memory) (a : Address) : BitVec width.bits :=
  BitVec.ofNat width.bits (memory.read a (MachineType.int width).bytes)

theorem load_integer (width : Width) (memory : Memory) (a : Address) :
    memory.load (.int width) a = .int width (memory.integer width a) := rfl

theorem integer_store_self {width : Width} (memory : Memory) (a : Address)
    (x : BitVec width.bits) : (memory.store a (.int width x)).integer width a = x := by
  have hload := load_store_self memory a (.int width x)
  rw [show (Scalar.int width x).type = .int width from rfl, load_integer] at hload
  simpa using hload

theorem integer_store_of_disjoint {width : Width} (memory : Memory) {a b : Address}
    (x : BitVec width.bits)
    (h : forall c, Within b (MachineType.int width).bytes c ->
      ¬ Within a (MachineType.int width).bytes c) :
    (memory.store a (.int width x)).integer width b = memory.integer width b := by
  have hload := load_store_of_disjoint memory (.int width x) (.int width) h
  rw [load_integer, load_integer] at hload
  simpa using hload

/-! ## Bytes of numbers -/

/-- Storing a value changes only its bytes. -/
theorem byteAt_store (memory : Memory) {a b : Address} {value : Scalar}
    (h : ¬ Within a value.type.bytes b) : (memory.store a value).byteAt b = memory.byteAt b :=
  byteAt_write_of_not_within memory a _ _ b h

theorem read_lt (memory : Memory) (a : Address) (count : Nat) :
    memory.read a count < 256 ^ count := by
  induction count generalizing a with
  | zero => simp [read]
  | succ count ih =>
      have hbyte := (memory.byteAt a).isLt
      have hrest := ih (a + 1)
      rw [read, Nat.pow_succ]
      omega

theorem byteAt_eq_of_read_eq {first second : Memory} {a x : Address} {count : Nat}
    (h : first.read a count = second.read a count) (hx : Within a count x) :
    first.byteAt x = second.byteAt x := by
  induction count generalizing a with
  | zero => exact absurd hx (Nat.not_lt_zero _)
  | succ count ih =>
      have hfirst := (first.byteAt a).isLt
      have hsecond := (second.byteAt a).isLt
      rw [read, read] at h
      by_cases hhead : x = a
      · subst hhead
        apply BitVec.eq_of_toNat_eq
        omega
      · refine ih (a := a + 1) (by omega) ?_
        unfold Within at *
        bv_omega

theorem byteAt_eq_of_float_eq {first second : Memory} {a x : Address}
    (h : first.float f a = second.float f a) (hx : Within a (MachineType.float f).bytes x) :
    first.byteAt x = second.byteAt x := by
  have hbits : 256 ^ (MachineType.float f).bytes = 2 ^ f.bits := by
    cases f
    · rfl
    · rfl
  have hfirst := read_lt first a (MachineType.float f).bytes
  have hsecond := read_lt second a (MachineType.float f).bytes
  rw [hbits] at hfirst hsecond
  have hnumbers := congrArg BitVec.toNat h
  rw [Memory.float, Memory.float, BitVec.toNat_ofNat, BitVec.toNat_ofNat, Nat.mod_eq_of_lt hfirst,
    Nat.mod_eq_of_lt hsecond] at hnumbers
  exact byteAt_eq_of_read_eq hnumbers hx

/-! ## Addresses of numbers -/

/-- Address of a number, given the address of the first one and an index. -/
def numberAt (f : Binary.Format) (base : Address) (index : Int) : Address :=
  base + BitVec.ofInt 64 (index * (MachineType.float f).bytes)

/-- An address lies in the run of bytes of a number. -/
def InNumber (f : Binary.Format) (base : Address) (index : Int) (a : Address) : Prop :=
  Within (numberAt f base index) (MachineType.float f).bytes a

theorem elementAddress_float (f : Binary.Format) (base : Address) (index : BitVec 32) :
    elementAddress (.float f) base index = numberAt f base index.toInt := by
  unfold elementAddress numberAt
  rw [BitVec.ofInt_mul, BitVec.ofInt_natCast]
  rfl

/-- Numbers at different indices have no byte in common. -/
theorem InNumber.unique {base a : Address} {i j : Nat} (hi : i < 2 ^ 32) (hj : j < 2 ^ 32)
    (hin : InNumber f base i a) (hother : InNumber f base j a) : i = j := by
  have hbytes : (MachineType.float f).bytes = 4 ∨ (MachineType.float f).bytes = 8 := by
    cases f
    · exact Or.inl rfl
    · exact Or.inr rfl
  have hplace : forall k : Nat, numberAt f base k =
      base + BitVec.ofNat 64 (k * (MachineType.float f).bytes) := by
    intro k
    unfold numberAt
    rw [← Int.natCast_mul, BitVec.ofInt_natCast]
  unfold InNumber Within at *
  rw [hplace] at hin hother
  rcases hbytes with hfour | height
  · rw [hfour] at hin hother
    bv_omega
  · rw [height] at hin hother
    bv_omega

theorem float_congr_at {first second : Memory} {a : Address}
    (h : forall x, Within a (MachineType.float f).bytes x -> first.byteAt x = second.byteAt x) :
    first.float f a = second.float f a := by
  have hbound := bytes_le (.float f)
  unfold Memory.float
  rw [read_congr _ _ (by omega) h]

theorem float_congr {first second : Memory} {base : Address} {index : Int}
    (h : forall a, InNumber f base index a -> first.byteAt a = second.byteAt a) :
    first.float f (numberAt f base index) = second.float f (numberAt f base index) :=
  float_congr_at h

/-- Under a number that is stored, what was there before makes no difference. -/
theorem byteAt_store_congr {first second : Memory} {a x : Address} (number : Binary.Pattern f)
    (h : ¬ Within a (MachineType.float f).bytes x -> first.byteAt x = second.byteAt x) :
    (first.store a (.float f number)).byteAt x = (second.store a (.float f number)).byteAt x := by
  by_cases hin : Within a (MachineType.float f).bytes x
  · refine byteAt_eq_of_float_eq (f := f) ?_ hin
    rw [float_store_self, float_store_self]
  · rw [byteAt_store first hin, byteAt_store second hin]
    exact h hin

/-- A number that is stored over another one leaves nothing of it. -/
theorem byteAt_store_store (memory : Memory) (a x : Address) (first second : Binary.Pattern f) :
    ((memory.store a (.float f first)).store a (.float f second)).byteAt x =
      (memory.store a (.float f second)).byteAt x :=
  byteAt_store_congr second fun hout => byteAt_store memory hout

theorem float_empty (f : Binary.Format) (a : Address) :
    empty.float f a = Binary.Pattern.zero f := by
  have hread : forall count a, empty.read a count = 0 := by
    intro count
    induction count with
    | zero => exact fun _ => rfl
    | succ count ih =>
        intro a
        rw [read, ih]
        rfl
  rw [float, hread]
  rfl

/-! ## Numbers that are stored one after another -/

/-- Stores numbers at places in turn.  A later number goes over an earlier one. -/
def storeEach (memory : Memory) (count : Nat) (places : Nat -> Address)
    (numbers : Nat -> Binary.Pattern f) : Memory :=
  (List.range count).foldl (fun after i => after.store (places i) (.float f (numbers i))) memory

section Storing

variable (count : Nat) (places : Nat -> Address) (numbers : Nat -> Binary.Pattern f)

theorem storeEach_succ (memory : Memory) :
    memory.storeEach (count + 1) places numbers =
      (memory.storeEach count places numbers).store (places count)
        (.float f (numbers count)) := by
  simp [storeEach, List.range_succ]

/-- Where numbers are stored, what was there before makes no difference. -/
theorem byteAt_storeEach_congr {first second : Memory} {a : Address}
    (h : (forall i, i < count -> ¬ Within (places i) (MachineType.float f).bytes a) ->
      first.byteAt a = second.byteAt a) :
    (first.storeEach count places numbers).byteAt a =
      (second.storeEach count places numbers).byteAt a := by
  induction count with
  | zero => exact h fun i hi => absurd hi (Nat.not_lt_zero i)
  | succ count ih =>
      rw [storeEach_succ, storeEach_succ]
      refine byteAt_store_congr (numbers count) fun hout => ih fun hbefore => h fun i hi => ?_
      by_cases hlast : i = count
      · rw [hlast]
        exact hout
      · exact hbefore i (by omega)

/-- Zeros that are stored stay, even where their places overlap. -/
theorem float_storeEach_zero (memory : Memory) {i : Nat} (hi : i < count) :
    (memory.storeEach count places fun _ => Binary.Pattern.zero f).float f (places i) =
      Binary.Pattern.zero f := by
  induction count with
  | zero => cases hi
  | succ count ih =>
      rw [storeEach_succ]
      by_cases hlast : i = count
      · rw [hlast, float_store_self]
      · have hbefore := (ih (by omega)).trans (float_empty f (places i)).symm
        refine Eq.trans (float_congr_at fun a ha => ?_) (float_empty f (places i))
        -- A byte of the last zero is zero, and any other byte is what it was.
        by_cases hin : Within (places count) (MachineType.float f).bytes a
        · refine byteAt_eq_of_float_eq (f := f) ?_ hin
          rw [float_store_self, float_empty]
        · refine (byteAt_store _ hin).trans ?_
          exact byteAt_eq_of_float_eq hbefore ha

end Storing

/-- Runs of a number of bytes start far enough from each other to lie apart. -/
def Far (count : Nat) (a b : Address) : Prop :=
  count ≤ (a - b).toNat ∧ count ≤ (b - a).toNat

instance (count : Nat) (a b : Address) : Decidable (Far count a b) :=
  inferInstanceAs (Decidable (_ ∧ _))

theorem Within.not_of_far {a b x : Address} {count : Nat} (h : Far count a b)
    (ha : Within a count x) : ¬ Within b count x := by
  unfold Far Within at *
  bv_omega

/-! ## Memories that show numbers -/

/-- A memory holds the given numbers from an address on, and is the memory that it was before
elsewhere. -/
structure Shows (base : Address) (count : Nat) (before after : Memory)
    (numbers : Nat -> Binary.Pattern f) : Prop where
  float : forall i : Nat, i < count -> after.float f (numberAt f base i) = numbers i
  frame : forall a, (forall i : Nat, i < count -> ¬ InNumber f base i a) ->
    after.byteAt a = before.byteAt a

variable {base : Address} {count : Nat} {before after : Memory} {numbers : Nat -> Binary.Pattern f}

theorem Shows.start (f : Binary.Format) (base : Address) (count : Nat) (memory : Memory) :
    Shows base count memory memory fun i => memory.float f (numberAt f base i) where
  float := fun _ _ => rfl
  frame := fun _ _ => rfl

theorem Shows.store (h : Shows base count before after numbers) (hcount : count ≤ 2 ^ 32)
    {index : Nat} (hindex : index < count) (x : Binary.Pattern f) :
    Shows base count before (after.store (numberAt f base index) (.float f x))
      (Function.update numbers index x) where
  float := by
    intro i hi
    by_cases heq : i = index
    · subst heq
      rw [float_store_self, Function.update_self]
    · rw [Function.update_of_ne heq, ← h.float i hi]
      unfold Memory.float Memory.store
      rw [read_write_of_disjoint]
      · have hbound := bytes_le (.float f)
        omega
      · intro a hin hother
        exact heq (InNumber.unique (by omega) (by omega) hin hother)
  frame := by
    intro a hoff
    rw [← h.frame a hoff]
    exact byteAt_write_of_not_within after _ _ _ a (hoff index hindex)

theorem Shows.float_of_apart (h : Shows base count before after numbers) {other : Address}
    {index : Int}
    (hapart : forall a, InNumber f other index a -> forall i : Nat, i < count ->
      ¬ InNumber f base i a) :
    after.float f (numberAt f other index) = before.float f (numberAt f other index) :=
  float_congr fun a ha => h.frame a (hapart a ha)

/-- Numbers that are stored one after another are shown, and nothing else has changed. -/
theorem shows_stores (f : Binary.Format) (base : Address) {count : Nat} (hcount : count ≤ 2 ^ 32)
    (memory : Memory) (numbers : Nat -> Binary.Pattern f) :
    Shows base count memory
      ((List.range count).foldl
        (fun after (i : Nat) => after.store (numberAt f base i) (.float f (numbers i))) memory)
      numbers := by
  induction count with
  | zero => exact ⟨fun i hi => absurd hi (Nat.not_lt_zero i), fun _ _ => rfl⟩
  | succ count ih =>
      have hbefore := ih (Nat.le_of_succ_le hcount)
      rw [List.range_succ, List.foldl_append]
      constructor
      · intro i hi
        show (Memory.store _ (numberAt f base count) _).float f _ = _
        by_cases hlast : i = count
        · rw [hlast, float_store_self]
        · rw [← hbefore.float i (by omega)]
          refine float_congr fun a ha => byteAt_store _ fun hother => hlast ?_
          exact InNumber.unique (by omega) (by omega) ha hother
      · intro a hout
        refine (byteAt_store _ ?_).trans (hbefore.frame a ?_)
        · exact hout count (Nat.lt_succ_self count)
        · exact fun i hi => hout i (Nat.lt_succ_of_lt hi)

end Memory
end Provision
