import Provision.Proofs.Product.Agreement
import Provision.Proofs.Product.Offsets

/-!
# Correctness of the dot products

Running a dot product that a provider synthesized leaves the sum of the products in the place of the
result, and nothing else, wherever the result lies.  As the result is zeroed first, elements under
it are zeros or what zeroing has left of them.
-/

namespace Provision

/-- Number of bytes of an element. -/
def DotElement.bytes : DotElement -> Nat
  | float => 8
  | int => 4

theorem DotElement.bytes_type (element : DotElement) :
    element.arithmetic.type.bytes = element.bytes := by
  cases element
  · rfl
  · rfl

namespace Dot
namespace Arguments

variable (call : Arguments)

/-! ## Elements and sums -/

def length : Nat :=
  call.count.toInt.toNat

/-- Address of an element of a number of bytes. -/
def place (base : Memory.Address) (bytes i : Nat) : Memory.Address :=
  base + BitVec.ofNat 64 (bytes * i)

/-- The products are added up from zero on, each one behind the sum so far. -/
def floatSum (memory : Memory) : Binary.Pattern .double :=
  (List.range call.length).foldl
    (fun sum i =>
      sum.add ((memory.float .double (place call.left 8 i)).mul
        (memory.float .double (place call.right 8 i))))
    (Binary.Pattern.zero .double)

def exactProduct (memory : Memory) (i : Nat) : Int :=
  (memory.integer .w32 (place call.left 4 i)).toInt *
    (memory.integer .w32 (place call.right 4 i)).toInt

/-- The sum of the products as numbers without bounds. -/
def exactSum (memory : Memory) : Int :=
  (List.range call.length).foldl (fun sum i => sum + call.exactProduct memory i) 0

/-- What is left as the result, given the memory in which the elements are found. -/
def IsTotal (found after : Memory) : DotElement -> Prop
  | .float => after.float .double call.total = call.floatSum found
  | .int => (after.integer .w32 call.total).toInt = wrapped (call.exactSum found)

/-- What a dot product of elements of a number of bytes does. -/
def accesses (bytes : Nat) : List Effect :=
  .store call.total bytes ::
    ((List.range call.length).flatMap fun i =>
      [.load (place call.left bytes i) bytes, .load (place call.right bytes i) bytes]) ++
    [.store call.total bytes]

variable {call} {i : Nat}

theorem elementAddress_eq_place {type : MachineType} {bytes : Nat} (hbytes : type.bytes = bytes)
    (base : Memory.Address) (hi : i < call.length) :
    Memory.elementAddress type base (BitVec.ofNat 32 i) = place base bytes i := by
  have hindex : (BitVec.ofNat 32 i).toInt = i := toInt_ofNat_of_le (Nat.le_of_lt hi)
  have hwide : (BitVec.ofNat 32 i).signExtend 64 = BitVec.ofInt 64 (BitVec.ofNat 32 i).toInt := rfl
  rw [Memory.elementAddress, hwide, hindex, hbytes, BitVec.ofInt_natCast, ← BitVec.ofNat_mul,
    Nat.mul_comm, place]

theorem term_float (memory : Memory) (hi : i < call.length) :
    call.term .float memory (BitVec.ofNat 32 i) =
      (memory.float .double (place call.left 8 i)).mul
        (memory.float .double (place call.right 8 i)) := by
  have hplace : forall base, Memory.elementAddress (.float .double) base (BitVec.ofNat 32 i) =
      place base 8 i :=
    fun base => elementAddress_eq_place rfl base hi
  simp only [term, DotElement.arithmetic, Arithmetic.element, hplace]

theorem term_int (memory : Memory) (hi : i < call.length) :
    call.term .int memory (BitVec.ofNat 32 i) =
      memory.integer .w32 (place call.left 4 i) * memory.integer .w32 (place call.right 4 i) := by
  have hplace : forall base, Memory.elementAddress (.int .w32) base (BitVec.ofNat 32 i) =
      place base 4 i :=
    fun base => elementAddress_eq_place rfl base hi
  simp only [term, DotElement.arithmetic, Arithmetic.element, hplace]

theorem sum_float (memory : Memory) : call.sum .float memory = call.floatSum memory := by
  refine List.foldl_rel (r := fun x y => x = y) rfl ?_
  intro i hi x y hxy
  show Binary.Pattern.add x (call.term .float memory _) = _
  rw [hxy, term_float memory (List.mem_range.mp hi)]

/-- Words that stand for numbers as far as a word can add up to one that stands for their sum. -/
theorem toInt_foldl_add {count : Nat} {words : Nat -> BitVec 32} {exact : Nat -> Int}
    (h : forall i, i < count -> (words i).toInt = wrapped (exact i)) :
    ((List.range count).foldl (fun sum i => sum + words i) (0 : BitVec 32)).toInt =
      wrapped ((List.range count).foldl (fun sum i => sum + exact i) 0) := by
  refine List.foldl_rel (r := fun (x : BitVec 32) (y : Int) => x.toInt = wrapped y) rfl ?_
  intro i hi x y hxy
  rw [BitVec.toInt_add, hxy, h i (List.mem_range.mp hi)]
  simp [wrapped]

theorem toInt_sum_int (memory : Memory) :
    BitVec.toInt (call.sum .int memory) = wrapped (call.exactSum memory) := by
  let words := fun i : Nat =>
    memory.integer .w32 (place call.left 4 i) * memory.integer .w32 (place call.right 4 i)
  have hwords : forall i, i < call.length ->
      (words i).toInt = wrapped (call.exactProduct memory i) := by
    intro i _
    exact BitVec.toInt_mul _ _
  rw [exactSum, ← toInt_foldl_add hwords]
  refine congrArg BitVec.toInt (List.foldl_rel (r := fun x y => x = y) rfl ?_)
  intro i hi x y hxy
  show BitVec.add x (call.term .int memory _) = _
  rw [hxy, term_int memory (List.mem_range.mp hi)]
  rfl

theorem isTotal_result (element : DotElement) (memory : Memory) :
    call.IsTotal (call.cleared element memory) (call.result element memory) element := by
  cases element with
  | float => exact (Memory.float_store_self _ _ _).trans (sum_float _)
  | int =>
      refine Eq.trans (congrArg BitVec.toInt ?_) (toInt_sum_int (call.cleared .int memory))
      exact Memory.integer_store_self _ _ _

theorem byteAt_result (element : DotElement) (memory : Memory) {a : Memory.Address}
    (ha : ¬ Memory.Within call.total element.bytes a) :
    (call.result element memory).byteAt a = memory.byteAt a := by
  have hout : forall (before : Memory) (x : element.arithmetic.Number),
      (before.store call.total (element.arithmetic.scalar x)).byteAt a = before.byteAt a := by
    intro before x
    refine Memory.byteAt_store before ?_
    rw [element.arithmetic.type_scalar, element.bytes_type]
    exact ha
  rw [result, hout, cleared, hout]

theorem effects_eq_accesses (element : DotElement) (call : Arguments) :
    call.effects element = call.accesses element.bytes := by
  rw [← element.bytes_type]
  unfold effects accesses
  rw [flatMap_below]
  refine congrArg (fun loads => call.stores element :: (loads ++ [call.stores element]))
    (List.flatMap_congr ?_)
  intro i hi
  have hterm := List.mem_range.mp hi
  rw [accumulates, elementAddress_eq_place rfl _ hterm, elementAddress_eq_place rfl _ hterm]

/-- The result of no elements is zero. -/
theorem load_of_isTotal {element : DotElement} {found after : Memory} (hlength : call.length = 0)
    (h : call.IsTotal found after element) :
    after.load element.arithmetic.type call.total = .zero element.arithmetic.type := by
  cases element with
  | float =>
      have hzero : call.floatSum found = Binary.Pattern.zero .double := by
        rw [floatSum, hlength]
        rfl
      have htotal : after.float .double call.total = call.floatSum found := h
      rw [Memory.load_float, htotal, hzero]
      rfl
  | int =>
      have hzero : call.exactSum found = 0 := by
        rw [exactSum, hlength]
        rfl
      have htotal : (after.integer .w32 call.total).toInt = wrapped (call.exactSum found) := h
      have hword : after.integer .w32 call.total = 0 := by
        apply BitVec.eq_of_toInt_eq
        rw [htotal, hzero]
        rfl
      rw [Memory.load_integer, hword]
      rfl

end Arguments

/-! ## Synthesized products -/

/-- A synthesized dot product comes to its end.  It leaves the total of the elements that it finds
once the result has been zeroed, and changes nothing else.  Without elements it does nothing but
store the result twice, which is zero then. -/
theorem leaves_total (element : DotElement) {σ : Type} {program : Executable σ} {id : FuncId}
    (hmade : program.Synthesized id (Provider.dot element)) (call : Arguments) (world : World σ)
    (depth : Nat) :
    exists after : Memory,
      program.invoke (depth + 1) id call.toList world =
          some ([], { world with memory := after }) ∧
        call.IsTotal (call.cleared element world.memory) after element ∧
        (forall a, ¬ Memory.Within call.total element.bytes a ->
          after.byteAt a = world.memory.byteAt a) ∧
        program.trace (depth + 1) id call.toList world = call.accesses element.bytes ∧
        (call.count.toInt ≤ 0 ->
          program.trace (depth + 1) id call.toList world =
              [.store call.total element.bytes, .store call.total element.bytes] ∧
            after.load element.arithmetic.type call.total = .zero element.arithmetic.type) := by
  have hreturns := returns_synthesized element world hmade call depth
  have htrace := hreturns.does.trans (Arguments.effects_eq_accesses element call)
  have htotal : call.IsTotal (call.cleared element world.memory) _ element :=
    Arguments.isTotal_result element world.memory
  refine ⟨call.result element world.memory, hreturns.runs, htotal, ?_, htrace, ?_⟩
  · intro a ha
    exact Arguments.byteAt_result element world.memory ha
  · intro hcount
    have hlength : call.length = 0 := Int.toNat_of_nonpos hcount
    refine ⟨?_, Arguments.load_of_isTotal hlength htotal⟩
    rw [htrace, Arguments.accesses, hlength]
    rfl

/-- A provider that has made the dot product of numbers. -/
def provider : Provider :=
  (Provider.dot .float).leaves Gemm.provider

/-- A program with both dot products. -/
def program : Executable Unit where
  module := ((Provider.dot .int).leaves provider).unit.module
  name := "unit"
  table := .empty

theorem keepsCode_both :
    program.KeepsCode Gemm.provider (Provider.dot .float) { index := 0 } (procedure .float) ∧
      program.KeepsCode provider (Provider.dot .int) { index := 1 } (procedure .int) := by
  decide +kernel

/-- Two elements each, of which the result lies over the first one. -/
def overlapping : Arguments where
  count := 2
  left := 0x1000
  right := 0x2000
  total := 0x1000

def overlappingWorld : World Unit where
  memory :=
    (((Memory.empty.store 0x1000 (.int .w32 5)).store 0x1004 (.int .w32 3)).store 0x2000
      (.int .w32 7)).store 0x2004 (.int .w32 (BitVec.ofNat 32 (2 ^ 30)))
  stack := 0
  host := ()

theorem leaves_total_overlapping :
    (exists after : Memory,
      program.invoke 1 { index := 0 } overlapping.toList overlappingWorld =
          some ([], { overlappingWorld with memory := after }) ∧
        after.float .double overlapping.total =
          overlapping.floatSum (overlapping.cleared .float overlappingWorld.memory)) ∧
      exists after : Memory,
        program.invoke 1 { index := 1 } overlapping.toList overlappingWorld =
            some ([], { overlappingWorld with memory := after }) ∧
          (after.integer .w32 overlapping.total).toInt = -2 ^ 30 := by
  rcases keepsCode_both with ⟨hfloats, hints⟩
  constructor
  · rcases leaves_total .float hfloats.synthesized overlapping overlappingWorld 0 with
      ⟨after, hruns, htotal, _⟩
    exact ⟨after, hruns, htotal⟩
  · rcases leaves_total .int hints.synthesized overlapping overlappingWorld 0 with
      ⟨after, hruns, htotal, _⟩
    refine ⟨after, hruns, Eq.trans htotal ?_⟩
    decide +kernel

end Dot
end Provision
