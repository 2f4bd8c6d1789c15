import Provision.Proofs.Binary.Agreement
import Provision.Proofs.Product.Gemm.Elements
import Provision.Proofs.Product.Gemm.Run
import Provision.Proofs.Provider.Synthesized

/-!
# Correctness of the matrix-matrix product

Running the matrix-matrix product that a provider synthesized leaves the product of its operands,
in rows as far apart as was asked for, and nothing else.
-/

namespace Provision
namespace Gemm

variable {f : Binary.Format}

namespace Arguments

variable (call : Arguments f)

/-! ## Sums -/

/-- The terms of an element are added up from zero on, each one behind the sum so far. -/
def sumBehind (memory : Memory) (i j : Nat) : Binary.Pattern f :=
  (List.range call.termCount).foldl (fun sum p => sum.add (call.term memory i j p))
    (Binary.Pattern.zero f)

/-- Sums agree, whether a term comes before or behind what was summed up before. -/
theorem agree_sum (memory : Memory) (i j : Nat) :
    Binary.Pattern.Agree (call.sum memory i j) (call.sumBehind memory i j) := by
  refine List.foldl_rel (Binary.Pattern.Agree.refl _) ?_
  intro p _ x y h
  exact h.add_swap (call.term memory i j p)

/-! ## Products -/

/-- What a product leaves: in the columns of the result sums of products, in the rest of its rows
zeros, and elsewhere what was there. -/
structure IsProduct (before after : Memory) : Prop where
  element : forall i j, i < call.rowCount -> j < call.columnCount ->
    after.float f (Memory.numberAt f call.c (i * call.ldc.toInt + j)) = call.sum before i j
  agrees : forall i j, i < call.rowCount -> j < call.columnCount ->
    Binary.Pattern.Agree
      (after.float f (Memory.numberAt f call.c (i * call.ldc.toInt + j)))
      (call.sumBehind before i j)
  padding : forall i j : Nat, i < call.rowCount -> call.columnCount ≤ j -> j < call.stride ->
    after.float f (Memory.numberAt f call.c (i * call.ldc.toInt + j)) = Binary.Pattern.zero f
  frame : forall a, (forall e : Nat, e < call.size -> ¬ Memory.InNumber f call.c e a) ->
    after.byteAt a = before.byteAt a

variable {call}

theorem isProduct_result (hfits : Fits call) (hapart : Apart call) (memory : Memory) :
    IsProduct call memory (call.result memory) := by
  have hplace : forall i j : Nat, (i * call.ldc.toInt + j : Int) = (i * call.stride + j : Nat) := by
    intro i j
    rw [← hfits.stride_eq]
    push_cast
    rfl
  have helement : forall i j, i < call.rowCount -> j < call.columnCount ->
      (call.result memory).float f (Memory.numberAt f call.c (i * call.ldc.toInt + j)) =
        call.sum memory i j := by
    intro i j hi hj
    rw [hplace, float_result hfits hapart memory hi (Nat.lt_of_lt_of_le hj hfits.columnCount_le),
      if_pos hj]
  exact
    { element := helement
      agrees := by
        intro i j hi hj
        rw [helement i j hi hj]
        exact call.agree_sum memory i j
      padding := by
        intro i j hi hcolumn hj
        rw [hplace, float_result hfits hapart memory hi hj, if_neg (Nat.not_lt_of_le hcolumn)]
      frame := fun a ha => byteAt_result hfits hapart memory ha }

/-! ## What products depend on -/

/-- Two memories are the same but for the bytes of the result. -/
def Elsewhere (call : Arguments f) (first second : Memory) : Prop :=
  forall a, (forall e : Nat, e < call.size -> ¬ Memory.InNumber f call.c e a) ->
    first.byteAt a = second.byteAt a

theorem sum_congr (hapart : Apart call) {first second : Memory} (h : call.Elsewhere first second)
    {i j : Nat} (hi : i < call.rowCount) (hj : j < call.columnCount) :
    call.sum first i j = call.sum second i j := by
  refine List.foldl_rel (r := fun x y => x = y) rfl ?_
  intro p hp x y hxy
  have hterm := List.mem_range.mp hp
  have hA := Memory.float_congr fun a ha => h a (hapart.first i j p hi hj hterm a ha)
  have hB := Memory.float_congr fun a ha => h a (hapart.second i j p hi hj hterm a ha)
  rw [hxy, term, term, hA, hB]

theorem byteAt_result_congr (hfits : Fits call) (hapart : Apart call) {first second : Memory}
    (h : call.Elsewhere first second) (a : Memory.Address) :
    (call.result first).byteAt a = (call.result second).byteAt a := by
  by_cases hin : exists e : Nat, e < call.size ∧ Memory.InNumber f call.c e a
  · rcases hin with ⟨e, he, ha⟩
    -- The byte is one of an element, whose row and column are had by division.
    refine Memory.byteAt_eq_of_float_eq (f := f) ?_ ha
    have hrow : e / call.stride < call.rowCount := Nat.div_lt_of_lt_mul (by
      rw [Nat.mul_comm]
      exact he)
    have hcolumn : e % call.stride < call.stride := by
      refine Nat.mod_lt e (Nat.pos_of_ne_zero fun hzero => ?_)
      rw [size, hzero] at he
      exact Nat.not_lt_zero e he
    rw [show e = e / call.stride * call.stride + e % call.stride from (Nat.div_add_mod' e _).symm,
      float_result hfits hapart first hrow hcolumn, float_result hfits hapart second hrow hcolumn]
    by_cases hin : e % call.stride < call.columnCount
    · rw [if_pos hin, if_pos hin]
      exact sum_congr hapart h hrow hin
    · rw [if_neg hin, if_neg hin]
  · have hout : forall e : Nat, e < call.size -> ¬ Memory.InNumber f call.c e a :=
      fun e he ha => hin ⟨e, he, ha⟩
    rw [byteAt_result hfits hapart first hout, byteAt_result hfits hapart second hout]
    exact h a hout

end Arguments

/-! ## Synthesized products -/

theorem symbol_eq (f : Binary.Format) :
    exists symbol, Kernel.gemm.symbol (.ofFormat f) .module = .ok symbol := by
  cases f
  · exact ⟨_, rfl⟩
  · exact ⟨_, rfl⟩

variable {σ : Type} {program : Executable σ} {id : FuncId}

theorem returns_synthesized
    (hmade : program.Synthesized id (Provider.kernel .gemm (.ofFormat f) .module))
    (call : Arguments f) (world : World σ) (depth : Nat) :
    program.Returns (depth + 1) id call.toList world [.int .w32 0] (world.onMemory call.result)
      call.effects :=
  (returns_procedure (program.invoke depth) world call).ofProgram
    (hmade.procedure?_kernel (procedure_eq f))

theorem invoke_synthesized
    (hmade : program.Synthesized id (Provider.kernel .gemm (.ofFormat f) .module))
    (call : Arguments f) (world : World σ) (depth : Nat) :
    program.invoke (depth + 1) id call.toList world =
      some ([.int .w32 0], world.onMemory call.result) :=
  (returns_synthesized hmade call world depth).runs

/-- A synthesized product comes to its end and returns zero.  It leaves the product of its operands
and changes nothing else; whatever order, scales and old result are given, it leaves the same. -/
theorem invoke_product
    (hmade : program.Synthesized id (Provider.kernel .gemm (.ofFormat f) .module))
    (call : Arguments f) (hfits : call.Fits) (hapart : call.Apart) (world : World σ) (depth : Nat) :
    exists after : Memory,
      program.invoke (depth + 1) id call.toList world =
          some ([.int .w32 0], { world with memory := after }) ∧
        call.IsProduct world.memory after ∧
          forall (order : BitVec 32) (alpha beta : Binary.Pattern f) (other : World σ),
            call.Elsewhere world.memory other.memory ->
              exists same : Memory,
                program.invoke (depth + 1) id
                    { call with order := order, alpha := alpha, beta := beta }.toList other =
                  some ([.int .w32 0], { other with memory := same }) ∧
                forall a, same.byteAt a = after.byteAt a := by
  refine ⟨call.result world.memory, invoke_synthesized hmade call world depth,
    Arguments.isProduct_result hfits hapart world.memory, ?_⟩
  intro order alpha beta other helsewhere
  refine ⟨call.result other.memory, invoke_synthesized hmade _ other depth, ?_⟩
  intro a
  exact (Arguments.byteAt_result_congr hfits hapart helsewhere a).symm

/-! ## A program with the product -/

/-- A provider of an empty module. -/
def provider : Provider :=
  .start (.ofModule .empty "unit" { os := .posix, intWidth := .unspecified } []) .standard

/-- A program of which a provider has made the product. -/
def product (f : Binary.Format) : Executable Unit where
  module := ((Provider.kernel .gemm (.ofFormat f) .module).leaves provider).unit.module
  name := "unit"
  table := .empty

theorem synthesized_product (f : Binary.Format) :
    (product f).Synthesized { index := 0 } (Provider.kernel .gemm (.ofFormat f) .module) := by
  rcases symbol_eq f with ⟨symbol, hsymbol⟩
  have hfits : StackSlot.fitFrame (procedure f).slots = true := by
    show StackSlot.fitFrame [] = true
    decide
  have hdata : symbol.name ∉ provider.unit.module.data := List.not_mem_nil
  rcases Provider.kernel_of_free provider hsymbol rfl rfl hdata
    (fun unit => procedure_eq f unit symbol.name) hfits with ⟨after, hrun, hmodule⟩
  let made : Declaration :=
    { name := symbol.name, linkage := .internal,
      signature := provider.unit.signature (Kernel.gemm.signature (.ofFormat f)),
      code := some (procedure f) }
  have hmade : after.unit.module.declaration? { index := 0 } = some made := by
    rw [hmodule]
    rfl
  have hkept : (product f).module.declaration? { index := 0 } = some made := by
    rw [product, Action.leaves_of_ok hrun]
    exact hmade
  exact ⟨provider, after, made, made, hrun, rfl, hmade, hkept, rfl⟩

/-- Two rows and two columns of two terms each.  The first operand lies exchanged, and the rows of
the result lie one element farther apart than they are long. -/
def transposed : Arguments .double where
  order := 101
  transA := 112
  transB := 111
  m := 2
  n := 2
  k := 2
  alpha := 0
  a := 0x1000
  lda := 3
  b := 0x2000
  ldb := 2
  beta := 0x3ff0000000000000
  c := 0x3000
  ldc := 3

def transposedWorld : World Unit where
  memory :=
    ((Memory.empty.storeEach 5 (fun e => Memory.numberAt .double 0x1000 e)
      fun e => .ofInt .double (e + 1)).storeEach 4 (fun e => Memory.numberAt .double 0x2000 e)
        fun e => .ofInt .double (e + 5)).storeEach 6 (fun e => Memory.numberAt .double 0x3000 e)
          fun e => .ofInt .double (e + 9)
  stack := 0
  host := ()

theorem invoke_product_transposed :
    exists after : Memory,
      (product .double).invoke 1 { index := 0 } transposed.toList transposedWorld =
          some ([.int .w32 0], { transposedWorld with memory := after }) ∧
        forall i : Nat, i < 2 ->
          (forall j : Nat, j < 2 ->
            after.float .double
                (Memory.numberAt .double transposed.c (i * transposed.ldc.toInt + j)) =
              .ofInt .double ((1 + i) * (5 + j) + (4 + i) * (7 + j))) ∧
            after.float .double
                (Memory.numberAt .double transposed.c (i * transposed.ldc.toInt + 2)) = 0 := by
  have hfits : transposed.Fits := ⟨by decide, by decide, by decide, by decide⟩
  have hapart : transposed.Apart := Arguments.Far.apart (by decide +kernel)
  have hsum : forall i, i < 2 -> forall j, j < 2 -> transposed.sum transposedWorld.memory i j =
      .ofInt .double ((1 + i) * (5 + j) + (4 + i) * (7 + j)) := by
    decide +kernel
  rcases invoke_product (synthesized_product .double) transposed hfits hapart transposedWorld 0 with
    ⟨after, hruns, hproduct, _⟩
  refine ⟨after, hruns, ?_⟩
  intro i hi
  constructor
  · intro j hj
    exact (hproduct.element i j hi hj).trans (hsum i hi j hj)
  · exact hproduct.padding i 2 hi (by decide) (by decide)

/-! ## What is not a number -/

/-- A row times a column, of two elements each.  The elements of the row are not numbers, and they
differ in what else they tell. -/
def sample : Arguments .double where
  order := 101
  transA := 111
  transB := 111
  m := 1
  n := 1
  k := 2
  alpha := 0x3ff0000000000000
  a := 0x1000
  lda := 2
  b := 0x2000
  ldb := 1
  beta := 0
  c := 0x3000
  ldc := 1

def sampleMemory : Memory :=
  (((Memory.empty.store 0x1000 (.float .double 0x7ff8000000000011)).store 0x1008
    (.float .double 0x7ff8000000000022)).store 0x2000 (.float .double 0x3ff0000000000000)).store
      0x2008 (.float .double 0x3ff0000000000000)

theorem fits_sample : sample.Fits :=
  ⟨by decide, by decide, by decide, by decide⟩

theorem apart_sample : sample.Apart :=
  Arguments.Far.apart (by decide +kernel)

/-- The sum that is stored passes on the last of the two elements, as each term comes before what
was summed up; with the terms behind it would pass on the first. -/
theorem sum_sample :
    sample.sum sampleMemory 0 0 = 0x7ff8000000000022 ∧
      sample.sumBehind sampleMemory 0 0 = 0x7ff8000000000011 := by
  decide +kernel

def sampleWorld : World Unit where
  memory := sampleMemory
  stack := 0
  host := ()

/-- A product whose element is not the sum with the terms behind, but agrees with it. -/
theorem product_ne_sumBehind :
    (product .double).Synthesized { index := 0 }
        (Provider.kernel .gemm (.ofFormat .double) .module) ∧
      sample.Fits ∧ sample.Apart ∧
        (product .double).invoke 1 { index := 0 } sample.toList sampleWorld =
          some ([.int .w32 0], { sampleWorld with memory := sample.result sampleMemory }) ∧
        (sample.result sampleMemory).float .double (Memory.numberAt .double sample.c 0) ≠
          sample.sumBehind sampleMemory 0 0 := by
  have hmade := synthesized_product .double
  refine ⟨hmade, fits_sample, apart_sample, invoke_synthesized hmade sample sampleWorld 0, ?_⟩
  have helement := (Arguments.isProduct_result fits_sample apart_sample sampleMemory).element 0 0
    (by decide) (by decide)
  rw [show Memory.numberAt .double sample.c 0 =
    Memory.numberAt .double sample.c ((0 : Nat) * sample.ldc.toInt + (0 : Nat)) from rfl, helement,
    sum_sample.left, sum_sample.right]
  decide

end Gemm
end Provision
