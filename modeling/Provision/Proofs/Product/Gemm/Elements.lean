import Provision.Proofs.Product.Gemm.Nest
import Provision.Proofs.Product.Offsets

/-!
# Elements of the matrix-matrix product

What the loop nest leaves in memory: sums of products in the columns of the result, zeros beside
them, and elsewhere what was there before.  The nest adds a term to a whole row before it comes to
the next term; the sums are those of every element on its own.
-/

namespace Provision

/-! ## Folds over numbers -/

section Folds

variable {α β : Type} (step : Nat -> α -> α)

/-- What no step changes is in the end what it was. -/
theorem foldl_range_view (view : α -> β) {count : Nat}
    (hstep : forall i a, i < count -> view (step i a) = view a) (start : α) :
    view ((List.range count).foldl (fun a i => step i a) start) = view start := by
  induction count with
  | zero => rfl
  | succ count ih =>
      rw [List.range_succ, List.foldl_append]
      exact (hstep count _ (Nat.lt_succ_self count)).trans
        (ih fun i a hi => hstep i a (Nat.lt_succ_of_lt hi))

/-- What one step changes is changed once, if the steps come to that one. -/
theorem foldl_range_view_at (view : α -> β) (change : β -> β) (place : Nat) {count : Nat}
    (hat : forall a, view (step place a) = change (view a))
    (hother : forall i a, i < count -> i ≠ place -> view (step i a) = view a) (start : α) :
    view ((List.range count).foldl (fun a i => step i a) start) =
      if place < count then change (view start) else view start := by
  induction count with
  | zero => rfl
  | succ count ih =>
      have hbefore := ih fun i a hi => hother i a (Nat.lt_succ_of_lt hi)
      rw [List.range_succ, List.foldl_append]
      show view (step count _) = _
      by_cases hplace : count = place
      · subst hplace
        rw [hat, hbefore, if_neg (Nat.lt_irrefl count), if_pos (Nat.lt_succ_self count)]
      · rw [hother count _ (Nat.lt_succ_self count) hplace, hbefore]
        have hiff : place < count ↔ place < count + 1 := by omega
        simp only [hiff]

end Folds

namespace Gemm
namespace Arguments

variable {f : Binary.Format} (call : Arguments f) (memory : Memory)

/-! ## Sizes -/

def rowCount : Nat :=
  call.m.toInt.toNat

def columnCount : Nat :=
  call.n.toInt.toNat

def termCount : Nat :=
  call.k.toInt.toNat

def stride : Nat :=
  call.ldc.toInt.toNat

def size : Nat :=
  call.rowCount * call.stride

/-! ## Terms and sums -/

/-- Index of an element of a matrix, or of the matrix exchanged for it, as a signed number of 32
bits. -/
def index (exchanged : Bool) (stride : Int) (row column : Nat) : Int :=
  (if exchanged then column * stride + row else row * stride + column).bmod (2 ^ 32)

def indexA (i p : Nat) : Int :=
  index (call.transA = 112) call.lda.toInt i p

def indexB (p j : Nat) : Int :=
  index (call.transB = 112) call.ldb.toInt p j

/-- A product of elements of the two operands. -/
def term (i j p : Nat) : Binary.Pattern f :=
  (memory.float f (Memory.numberAt f call.a (call.indexA i p))).mul
    (memory.float f (Memory.numberAt f call.b (call.indexB p j)))

/-- The terms of an element are added up from zero on, each one before the sum so far. -/
def sum (i j : Nat) : Binary.Pattern f :=
  (List.range call.termCount).foldl (fun sum p => (call.term memory i j p).add sum)
    (Binary.Pattern.zero f)

/-! ## Arguments that fit -/

/-- The rows of the result lie apart, and they take as many elements as a signed number of 32 bits
can count. -/
structure Fits : Prop where
  stride_nonneg : 0 ≤ call.ldc.toInt
  columns_le : call.n.toInt ≤ call.ldc.toInt
  size_lower : -2 ^ 31 ≤ call.m.toInt * call.ldc.toInt
  size_upper : call.m.toInt * call.ldc.toInt < 2 ^ 31

/-- The result has no byte in common with an element of an operand that is used. -/
structure Apart : Prop where
  first : forall i j p, i < call.rowCount -> j < call.columnCount -> p < call.termCount ->
    forall a, Memory.InNumber f call.a (call.indexA i p) a ->
      forall e : Nat, e < call.size -> ¬ Memory.InNumber f call.c e a
  second : forall i j p, i < call.rowCount -> j < call.columnCount -> p < call.termCount ->
    forall a, Memory.InNumber f call.b (call.indexB p j) a ->
      forall e : Nat, e < call.size -> ¬ Memory.InNumber f call.c e a

/-- Elements that are used start far from those that are stored. -/
def Far : Prop :=
  forall i, i < call.rowCount -> forall j, j < call.columnCount -> forall p, p < call.termCount ->
    forall e, e < call.size ->
      Memory.Far (MachineType.float f).bytes (Memory.numberAt f call.a (call.indexA i p))
          (Memory.numberAt f call.c (e : Nat)) ∧
        Memory.Far (MachineType.float f).bytes (Memory.numberAt f call.b (call.indexB p j))
          (Memory.numberAt f call.c (e : Nat))

instance : Decidable call.Far :=
  inferInstanceAs (Decidable (forall i, i < call.rowCount -> forall j, j < call.columnCount ->
    forall p, p < call.termCount -> forall e, e < call.size -> _ ∧ _))

theorem Far.apart {call : Arguments f} (h : call.Far) : call.Apart where
  first := fun i j p hi hj hp _ ha e he =>
    Memory.Within.not_of_far (h i hi j hj p hp e he).left ha
  second := fun i j p hi hj hp _ ha e he =>
    Memory.Within.not_of_far (h i hi j hj p hp e he).right ha

/-! ## The nest without memory -/

def addTerm (i p j : Nat) (numbers : Nat -> Binary.Pattern f) : Nat -> Binary.Pattern f :=
  Function.update numbers (i * call.stride + j)
    ((call.term memory i j p).add (numbers (i * call.stride + j)))

def addColumns (i p : Nat) (numbers : Nat -> Binary.Pattern f) : Nat -> Binary.Pattern f :=
  (List.range call.columnCount).foldl (fun numbers j => call.addTerm memory i p j numbers) numbers

def addTerms (i : Nat) (numbers : Nat -> Binary.Pattern f) : Nat -> Binary.Pattern f :=
  (List.range call.termCount).foldl (fun numbers p => call.addColumns memory i p numbers) numbers

def addRows (numbers : Nat -> Binary.Pattern f) : Nat -> Binary.Pattern f :=
  (List.range call.rowCount).foldl (fun numbers i => call.addTerms memory i numbers) numbers

def clearAll (numbers : Nat -> Binary.Pattern f) : Nat -> Binary.Pattern f :=
  (List.range call.size).foldl
    (fun numbers e => Function.update numbers e (Binary.Pattern.zero f)) numbers

theorem clearAll_apply {e : Nat} (he : e < call.size) (numbers : Nat -> Binary.Pattern f) :
    call.clearAll numbers e = Binary.Pattern.zero f := by
  have hview := foldl_range_view_at
    (fun e numbers => Function.update numbers e (Binary.Pattern.zero f)) (fun numbers => numbers e)
    (fun _ => Binary.Pattern.zero f) e (fun numbers => Function.update_self e _ numbers)
    (fun i numbers (_ : i < call.size) hne => Function.update_of_ne (Ne.symm hne) _ numbers) numbers
  rw [if_pos he] at hview
  exact hview

theorem place_unique {stride i j row column : Nat} (hj : j < stride) (hcolumn : column < stride)
    (h : i * stride + j = row * stride + column) : i = row ∧ j = column := by
  have hdiv := congrArg (· / stride) h
  have hmod := congrArg (· % stride) h
  simp only [Nat.mul_comm _ stride, Nat.mul_add_div (Nat.zero_lt_of_lt hj), Nat.div_eq_of_lt hj,
    Nat.div_eq_of_lt hcolumn] at hdiv
  simp only [Nat.mul_comm _ stride, Nat.mul_add_mod, Nat.mod_eq_of_lt hj,
    Nat.mod_eq_of_lt hcolumn] at hmod
  exact ⟨by simpa using hdiv, hmod⟩

variable {call} {row column : Nat}

theorem addColumns_apply (p : Nat) (numbers : Nat -> Binary.Pattern f) :
    call.addColumns memory row p numbers (row * call.stride + column) =
      if column < call.columnCount then
        (call.term memory row column p).add (numbers (row * call.stride + column))
      else numbers (row * call.stride + column) := by
  refine foldl_range_view_at (fun j => call.addTerm memory row p j)
    (fun numbers => numbers (row * call.stride + column))
    (fun x => (call.term memory row column p).add x) column ?_ ?_ numbers
  · intro numbers
    exact Function.update_self _ _ numbers
  · intro j numbers _ hne
    refine Function.update_of_ne ?_ _ numbers
    omega

theorem addColumns_apply_of_ne (hcolumn : column < call.stride)
    (hcolumns : call.columnCount ≤ call.stride) {i : Nat} (hne : i ≠ row) (p : Nat)
    (numbers : Nat -> Binary.Pattern f) :
    call.addColumns memory i p numbers (row * call.stride + column) =
      numbers (row * call.stride + column) := by
  refine foldl_range_view (fun j => call.addTerm memory i p j)
    (fun numbers => numbers (row * call.stride + column)) ?_ numbers
  intro j numbers hj
  refine Function.update_of_ne ?_ _ numbers
  intro heq
  exact hne (place_unique (Nat.lt_of_lt_of_le hj hcolumns) hcolumn heq.symm).left

theorem addTerms_apply (numbers : Nat -> Binary.Pattern f) :
    call.addTerms memory row numbers (row * call.stride + column) =
      if column < call.columnCount then
        (List.range call.termCount).foldl (fun sum p => (call.term memory row column p).add sum)
          (numbers (row * call.stride + column))
      else numbers (row * call.stride + column) := by
  let view := fun numbers : Nat -> Binary.Pattern f => numbers (row * call.stride + column)
  -- Each term changes the element on its own, so the fold over rows of numbers is one over numbers.
  by_cases hin : column < call.columnCount
  · rw [if_pos hin]
    refine (List.foldl_hom view fun numbers p => ?_).symm
    rw [show view (call.addColumns memory row p numbers) = _ from
      addColumns_apply memory p numbers, if_pos hin]
  · rw [if_neg hin]
    refine foldl_range_view (fun p => call.addColumns memory row p) view ?_ numbers
    intro p numbers _
    rw [show view (call.addColumns memory row p numbers) = _ from
      addColumns_apply memory p numbers, if_neg hin]

/-- Going over the rows adds up the terms of every element. -/
theorem addRows_apply (hrow : row < call.rowCount) (hcolumn : column < call.stride)
    (hcolumns : call.columnCount ≤ call.stride) (numbers : Nat -> Binary.Pattern f) :
    call.addRows memory numbers (row * call.stride + column) =
      if column < call.columnCount then
        (List.range call.termCount).foldl (fun sum p => (call.term memory row column p).add sum)
          (numbers (row * call.stride + column))
      else numbers (row * call.stride + column) := by
  let view := fun numbers : Nat -> Binary.Pattern f => numbers (row * call.stride + column)
  have hother : forall i numbers, i < call.rowCount -> i ≠ row ->
      view (call.addTerms memory i numbers) = view numbers := by
    intro i numbers _ hne
    exact foldl_range_view (fun p => call.addColumns memory i p) view
      (fun p numbers _ => addColumns_apply_of_ne memory hcolumn hcolumns hne p numbers) numbers
  have hrows := foldl_range_view_at (fun i => call.addTerms memory i) view
    (fun x => if column < call.columnCount then
        (List.range call.termCount).foldl (fun sum p => (call.term memory row column p).add sum) x
      else x) row (fun numbers => addTerms_apply memory numbers) hother numbers
  rw [if_pos hrow] at hrows
  exact hrows

/-! ## Indices of 32 bits -/

theorem toInt_row (hrow : row < call.rowCount) : (BitVec.ofNat 32 row).toInt = row :=
  toInt_ofNat_of_le (Nat.le_of_lt hrow)

theorem toInt_column (hcolumn : column < call.columnCount) :
    (BitVec.ofNat 32 column).toInt = column :=
  toInt_ofNat_of_le (Nat.le_of_lt hcolumn)

theorem toInt_term {p : Nat} (hp : p < call.termCount) : (BitVec.ofNat 32 p).toInt = p :=
  toInt_ofNat_of_le (Nat.le_of_lt hp)

theorem toInt_offset {exchanged : Bool} {stride x y : BitVec 32} {i j : Nat} (hx : x.toInt = i)
    (hy : y.toInt = j) :
    (offset exchanged stride x y).toInt = index exchanged stride.toInt i j := by
  unfold offset index
  cases exchanged
  · simp [BitVec.toInt_add, BitVec.toInt_mul, hx, hy]
  · simp [BitVec.toInt_add, BitVec.toInt_mul, hx, hy]

namespace Fits

theorem columnCount_le (h : Fits call) : call.columnCount ≤ call.stride := by
  have hcolumns := h.columns_le
  unfold columnCount stride
  omega

theorem stride_eq (h : Fits call) : (call.stride : Int) = call.ldc.toInt :=
  Int.toNat_of_nonneg h.stride_nonneg

theorem size_eq (h : Fits call) : call.size = (call.m.toInt * call.ldc.toInt).toNat := by
  unfold size rowCount stride
  by_cases hm : 0 ≤ call.m.toInt
  · exact (Int.toNat_mul hm h.stride_nonneg).symm
  · have hproduct : call.m.toInt * call.ldc.toInt ≤ 0 :=
      Int.mul_nonpos_of_nonpos_of_nonneg (by omega) h.stride_nonneg
    rw [Int.toNat_of_nonpos (by omega), Int.toNat_of_nonpos hproduct, Nat.zero_mul]

theorem size_lt (h : Fits call) : call.size < 2 ^ 31 := by
  have hupper := h.size_upper
  rw [h.size_eq]
  omega

theorem toInt_count (h : Fits call) : (call.ldc * call.m).toInt.toNat = call.size := by
  rw [h.size_eq, BitVec.toInt_mul, Int.mul_comm]
  exact congrArg Int.toNat (wrapped_of_signed h.size_lower h.size_upper)

theorem place_lt (hrow : row < call.rowCount) (hcolumn : column < call.stride) :
    row * call.stride + column < call.size := by
  have hrows : (row + 1) * call.stride ≤ call.rowCount * call.stride :=
    Nat.mul_le_mul_right call.stride hrow
  rw [Nat.succ_mul] at hrows
  unfold size
  omega

/-- Places in the result are computed without wrapping. -/
theorem toInt_place (h : Fits call) (hrow : row < call.rowCount)
    (hcolumn : column < call.columnCount) :
    (BitVec.ofNat 32 row * call.ldc + BitVec.ofNat 32 column).toInt =
      (row * call.stride + column : Nat) := by
  have hplace := place_lt hrow (Nat.lt_of_lt_of_le hcolumn h.columnCount_le)
  have hsize := h.size_lt
  rw [toInt_mulAdd (toInt_row hrow) (toInt_column hcolumn), ← h.stride_eq, ← Int.natCast_mul,
    ← Int.natCast_add]
  exact wrapped_of_signed (by omega) (by omega)

end Fits

/-! ## The nest over memory -/

section Nest

variable {before after : Memory} {numbers : Nat -> Binary.Pattern f}

theorem shows_clear (hfits : Fits call)
    (h : Memory.Shows call.c call.size before after numbers) {e : Nat} (he : e < call.size) :
    Memory.Shows call.c call.size before (call.clear (BitVec.ofNat 32 e) after)
      (Function.update numbers e (Binary.Pattern.zero f)) := by
  have hsize := hfits.size_lt
  have hle : e ≤ (call.ldc * call.m).toInt.toNat := by
    rw [hfits.toInt_count]
    exact Nat.le_of_lt he
  have hindex : (BitVec.ofNat 32 e).toInt = e := toInt_ofNat_of_le hle
  unfold clear
  rw [Memory.elementAddress_float, hindex]
  exact h.store (by omega) he _

/-- The operands are what they were, as they are apart from the result. -/
theorem shows_accumulate (hfits : Fits call) (hapart : Apart call)
    (h : Memory.Shows call.c call.size before after numbers) {i p j : Nat}
    (hi : i < call.rowCount) (hp : p < call.termCount) (hj : j < call.columnCount) :
    Memory.Shows call.c call.size before
      (call.accumulate (BitVec.ofNat 32 i) (BitVec.ofNat 32 p) (BitVec.ofNat 32 j) after)
      (call.addTerm before i p j numbers) := by
  have hplace := Fits.place_lt hi (Nat.lt_of_lt_of_le hj hfits.columnCount_le)
  have hsize := hfits.size_lt
  have hA : call.addressA (BitVec.ofNat 32 i) (BitVec.ofNat 32 p) =
      Memory.numberAt f call.a (call.indexA i p) := by
    unfold addressA indexA
    rw [Memory.elementAddress_float, toInt_offset (toInt_row hi) (toInt_term hp)]
  have hB : call.addressB (BitVec.ofNat 32 p) (BitVec.ofNat 32 j) =
      Memory.numberAt f call.b (call.indexB p j) := by
    unfold addressB indexB
    rw [Memory.elementAddress_float, toInt_offset (toInt_term hp) (toInt_column hj)]
  have hC : call.addressC (BitVec.ofNat 32 i) (BitVec.ofNat 32 j) =
      Memory.numberAt f call.c (i * call.stride + j : Nat) := by
    unfold addressC
    rw [Memory.elementAddress_float, hfits.toInt_place hi hj]
  unfold accumulate addTerm term
  rw [hA, hB, hC, h.float_of_apart (hapart.first i j p hi hj hp),
    h.float_of_apart (hapart.second i j p hi hj hp), h.float _ hplace]
  exact h.store (by omega) hplace _

theorem shows_overColumns (hfits : Fits call) (hapart : Apart call)
    (h : Memory.Shows call.c call.size before after numbers) {i p : Nat}
    (hi : i < call.rowCount) (hp : p < call.termCount) :
    Memory.Shows call.c call.size before
      (call.overColumns (BitVec.ofNat 32 i) (BitVec.ofNat 32 p) after)
      (call.addColumns before i p numbers) := by
  refine List.foldl_rel h ?_
  intro j hj after numbers h
  exact shows_accumulate hfits hapart h hi hp (List.mem_range.mp hj)

theorem shows_overTerms (hfits : Fits call) (hapart : Apart call)
    (h : Memory.Shows call.c call.size before after numbers) {i : Nat} (hi : i < call.rowCount) :
    Memory.Shows call.c call.size before (call.overTerms (BitVec.ofNat 32 i) after)
      (call.addTerms before i numbers) := by
  refine List.foldl_rel h ?_
  intro p hp after numbers h
  exact shows_overColumns hfits hapart h hi (List.mem_range.mp hp)

theorem shows_cleared (hfits : Fits call) (memory : Memory) :
    Memory.Shows call.c call.size memory (repeatBelow (call.ldc * call.m) call.clear memory)
      (call.clearAll fun e => memory.float f (Memory.numberAt f call.c e)) := by
  unfold repeatBelow clearAll
  rw [hfits.toInt_count]
  refine List.foldl_rel (Memory.Shows.start f call.c call.size memory) ?_
  intro e he after numbers h
  exact shows_clear hfits h (List.mem_range.mp he)

/-- The result shows what the nest without memory makes of zeros. -/
theorem shows_result (hfits : Fits call) (hapart : Apart call) (memory : Memory) :
    Memory.Shows call.c call.size memory (call.result memory)
      (call.addRows memory
        (call.clearAll fun e => memory.float f (Memory.numberAt f call.c e))) := by
  refine List.foldl_rel (shows_cleared hfits memory) ?_
  intro i hi after numbers h
  exact shows_overTerms hfits hapart h (List.mem_range.mp hi)

end Nest

/-- In a column of the result there are sums of products, and beside the columns zeros. -/
theorem float_result (hfits : Fits call) (hapart : Apart call) (memory : Memory)
    (hrow : row < call.rowCount) (hcolumn : column < call.stride) :
    (call.result memory).float f (Memory.numberAt f call.c (row * call.stride + column : Nat)) =
      if column < call.columnCount then call.sum memory row column
      else Binary.Pattern.zero f := by
  have hplace := Fits.place_lt hrow hcolumn
  rw [(shows_result hfits hapart memory).float _ hplace,
    addRows_apply memory hrow hcolumn hfits.columnCount_le, clearAll_apply call hplace]
  rfl

theorem byteAt_result (hfits : Fits call) (hapart : Apart call) (memory : Memory)
    {a : Memory.Address} (h : forall e : Nat, e < call.size -> ¬ Memory.InNumber f call.c e a) :
    (call.result memory).byteAt a = memory.byteAt a :=
  (shows_result hfits hapart memory).frame a h

end Arguments
end Gemm
end Provision
