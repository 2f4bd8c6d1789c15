import Provision.Proofs.Product.Agreement
import Provision.Proofs.Product.Gemm.Bounds
import Provision.Proofs.Product.Gemv.Bounds

/-!
# Bounds of the matrix products

The matrix products that a provider synthesized compute offsets in words of 32 bits.  This is exact
where the operands are small enough; then they stay inside their operands, and what was in the place
of the result makes no difference.  Beyond that a result may not even be zeroed.
-/

namespace Provision

/-! ## Effects inside of operands -/

theorem Gemv.Arguments.Inside.spares {f : Binary.Format} {call : Gemv.Arguments f}
    {effect : Effect} (h : call.Inside effect) {b : Memory.Address}
    (hb : forall e : Nat, e < call.sizeY -> ¬ Memory.InNumber f call.y e b) :
    effect.Spares b := by
  rcases h with ⟨_, _, rfl⟩ | ⟨_, _, rfl⟩ | ⟨e, he, rfl⟩
  · trivial
  · trivial
  · exact hb e he

theorem Gemm.Arguments.Inside.spares {f : Binary.Format} {call : Gemm.Arguments f}
    {effect : Effect} (h : call.Inside effect) {b : Memory.Address}
    (hb : forall e : Nat, e < call.size -> ¬ Memory.InNumber f call.c e b) :
    effect.Spares b := by
  rcases h with ⟨_, _, rfl⟩ | ⟨_, _, rfl⟩ | ⟨e, he, rfl | rfl⟩
  · trivial
  · trivial
  · trivial
  · exact hb e he

/-! ## Synthesized products -/

/-- Offsets that a matrix product computes are exact if and only if no operand takes more elements
than a signed word can number and, for matrices, the word can count those of the result.  Then every
access is one to an element of its operand, and a product of matrices zeroes the whole result before
it adds anything up, so that what was there makes no difference, wherever the operands lie. -/
theorem Executable.offsets_exact {σ : Type} {f : Binary.Format} {program : Executable σ}
    {gemv gemm : FuncId}
    (hgemv : program.Synthesized gemv (Provider.kernel .gemv (.ofFormat f) .module))
    (hgemm : program.Synthesized gemm (Provider.kernel .gemm (.ofFormat f) .module)) :
    (forall call : Gemv.Arguments f, call.Valid -> forall (world : World σ) (depth : Nat),
      exists after : Memory,
        program.invoke (depth + 1) gemv call.toList world =
            some ([.int .w32 0], { world with memory := after }) ∧
          program.trace (depth + 1) gemv call.toList world = call.accesses wrapped ∧
          (call.Exact ↔ call.Sized) ∧
          (call.Sized ->
            program.trace (depth + 1) gemv call.toList world = call.accesses id ∧
              (forall effect, effect ∈ call.accesses id -> call.Inside effect) ∧
              forall b, (forall e : Nat, e < call.sizeY -> ¬ Memory.InNumber f call.y e b) ->
                after.byteAt b = world.memory.byteAt b)) ∧
    forall call : Gemm.Arguments f, call.Valid -> forall (world : World σ) (depth : Nat),
      exists after : Memory,
        program.invoke (depth + 1) gemm call.toList world =
            some ([.int .w32 0], { world with memory := after }) ∧
          program.trace (depth + 1) gemm call.toList world = call.accesses wrapped ∧
          (call.Exact ↔ call.Sized) ∧
          (call.Sized ->
            program.trace (depth + 1) gemm call.toList world = call.accesses id ∧
              (forall effect, effect ∈ call.accesses id -> call.Inside effect) ∧
              (forall b, (forall e : Nat, e < call.size -> ¬ Memory.InNumber f call.c e b) ->
                after.byteAt b = world.memory.byteAt b) ∧
              after = call.overRows (call.cleared world.memory) ∧
              (forall e : Nat, e < call.size ->
                (call.cleared world.memory).float f (Memory.numberAt f call.c e) =
                  Binary.Pattern.zero f) ∧
              forall other : World σ, call.Elsewhere world.memory other.memory ->
                exists same : Memory,
                  program.invoke (depth + 1) gemm call.toList other =
                      some ([.int .w32 0], { other with memory := same }) ∧
                    forall a, same.byteAt a = after.byteAt a) := by
  constructor
  · intro call hvalid world depth
    have hreturns := Gemv.returns_synthesized world hgemv call depth
    have htrace := hreturns.does.trans call.effects_eq_accesses
    refine ⟨_, hreturns.runs, htrace, hvalid.exact_iff_sized, ?_⟩
    intro hsized
    have hexact := htrace.trans (hvalid.exact_iff_sized.mpr hsized).accesses_eq
    refine ⟨hexact, fun _ => hvalid.inside, ?_⟩
    intro b hb
    refine Executable.byteAt_of_spares (hgemv.procedure?_kernel (Gemv.procedure_eq f))
      hreturns.runs fun effect heffect => ?_
    rw [hexact] at heffect
    exact (hvalid.inside heffect).spares hb
  · intro call hvalid world depth
    have hreturns := Gemm.returns_synthesized hgemm call world depth
    have htrace := hreturns.does.trans call.effects_eq_accesses
    refine ⟨_, hreturns.runs, htrace, hvalid.exact_iff_sized, ?_⟩
    intro hsized
    have hexact := htrace.trans (hvalid.exact_iff_sized.mpr hsized).accesses_eq
    refine ⟨hexact, fun _ => hvalid.inside, ?_, rfl, fun _ => hvalid.float_cleared hsized _, ?_⟩
    · intro b hb
      refine Executable.byteAt_of_spares (hgemm.procedure?_kernel (Gemm.procedure_eq f))
        hreturns.runs fun effect heffect => ?_
      rw [hexact] at heffect
      exact (hvalid.inside heffect).spares hb
    · intro other helsewhere
      refine ⟨_, (Gemm.returns_synthesized hgemm call other depth).runs, fun a => ?_⟩
      exact (Gemm.Arguments.byteAt_overRows_congr (hvalid.byteAt_cleared hsized helsewhere) a).symm

namespace Product

/-- Two rows of a matrix times a vector, whose elements and those of the result lie apart. -/
def spaced : Gemv.Arguments .double :=
  { sample with m := 2, lda := 3, incx := 2, incy := 2 }

/-- The operands of the sample of two rows, with another number in the place of the result. -/
def altered : World Unit :=
  { Gemm.transposedWorld with
    memory := Gemm.transposedWorld.memory.store
      (Memory.numberAt .double Gemm.transposed.c (4 : Nat)) (.float .double 0x4014000000000000) }

theorem elsewhere_altered :
    Gemm.transposed.Elsewhere Gemm.transposedWorld.memory altered.memory := by
  intro a ha
  have hout : ¬ Memory.Within (Memory.numberAt .double Gemm.transposed.c (4 : Nat)) 8 a :=
    ha 4 (by decide)
  exact (Memory.byteAt_store Gemm.transposedWorld.memory hout).symm

theorem offsets_exact_transposed :
    (exists after : Memory,
      program.invoke 1 { index := 0 } spaced.toList Gemm.transposedWorld =
          some ([.int .w32 0], { Gemm.transposedWorld with memory := after }) ∧
        program.trace 1 { index := 0 } spaced.toList Gemm.transposedWorld = spaced.accesses id) ∧
      exists after same : Memory,
        program.invoke 1 { index := 1 } Gemm.transposed.toList Gemm.transposedWorld =
            some ([.int .w32 0], { Gemm.transposedWorld with memory := after }) ∧
          program.trace 1 { index := 1 } Gemm.transposed.toList Gemm.transposedWorld =
            Gemm.transposed.accesses id ∧
          program.invoke 1 { index := 1 } Gemm.transposed.toList altered =
            some ([.int .w32 0], { altered with memory := same }) ∧
          forall a, same.byteAt a = after.byteAt a := by
  rcases keepsCode_products with ⟨hgemv, hgemm, _⟩
  rcases Executable.offsets_exact hgemv.synthesized hgemm.synthesized with ⟨hvectors, hmatrices⟩
  constructor
  · have hvalid : spaced.Valid := ⟨by decide, by decide, by decide, by decide, by decide⟩
    have hsized : spaced.Sized := ⟨by decide, by decide, by decide⟩
    rcases hvectors spaced hvalid Gemm.transposedWorld 0 with ⟨after, hruns, _, _, hexact⟩
    exact ⟨after, hruns, (hexact hsized).left⟩
  · have hvalid : Gemm.transposed.Valid :=
      ⟨by decide, by decide, by decide, by decide, by decide, by decide⟩
    have hsized : Gemm.transposed.Sized := ⟨by decide, by decide, by decide⟩
    rcases hmatrices Gemm.transposed hvalid Gemm.transposedWorld 0 with
      ⟨after, hruns, _, _, hexact⟩
    rcases hexact hsized with ⟨htrace, _, _, _, _, hindependent⟩
    rcases hindependent altered elsewhere_altered with ⟨same, hother, hsame⟩
    exact ⟨after, same, hruns, htrace, hother, hsame⟩

/-! ## Words that are too short -/

/-- The row and the column of the sample, with a number in the place of the result. -/
def stained : World Unit :=
  { Gemm.sampleWorld with
    memory := Gemm.sampleMemory.store 0x3000 (.float .double 0x4014000000000000) }

/-- Two rows without terms, of a result whose elements no signed word can count. -/
def wide : Gemm.Arguments .double where
  order := 101
  transA := 111
  transB := 111
  m := 2
  n := 1
  k := 0
  alpha := 0x3ff0000000000000
  a := 0x1000
  lda := 1
  b := 0x2000
  ldb := 1
  beta := 0
  c := 0x3000
  ldc := 0x40000000

/-- One row of three terms, in a matrix whose rows lie far apart. -/
def spread : Gemm.Arguments .double :=
  { wide with m := 1, k := 3, lda := 0x40000000, ldc := 1 }

/-- The number of elements to be zeroed is taken for a negative one, and the product leaves what it
finds in the place of the result.  Even where all operands are small, the offset that is not chosen
need not be exact. -/
theorem clearing_wraps :
    program.Synthesized { index := 1 } (Provider.kernel .gemm (.ofFormat .double) .module) ∧
      wide.Valid ∧ wide.clearCount = 2 ^ 31 ∧ (wide.ldc * wide.m).toInt = -2 ^ 31 ∧
        (forall world : World Unit,
          program.invoke 1 { index := 1 } wide.toList world = some ([.int .w32 0], world)) ∧
        stained.memory.float .double wide.c = 0x4014000000000000 ∧
        Gemm.sampleMemory.float .double wide.c = 0 ∧
        spread.Valid ∧ spread.Sized ∧
        (Gemm.Arguments.offset true spread.lda 0 2).toInt ≠
          Gemm.Arguments.exactOffset true spread.lda.toInt 0 2 := by
  have hmade := keepsCode_products.right.left.synthesized
  have hvalid : wide.Valid := ⟨by decide, by decide, by decide, by decide, by decide, by decide⟩
  have hspread : spread.Valid :=
    ⟨by decide, by decide, by decide, by decide, by decide, by decide⟩
  have hsized : spread.Sized := ⟨by decide, by decide, by decide⟩
  refine ⟨hmade, hvalid, by decide, by decide, ?_, by decide, by decide, hspread, hsized,
    by decide⟩
  intro world
  -- No element is zeroed, and no row has a term.
  have hkept : world.onMemory wide.result = world := rfl
  rw [Gemm.invoke_synthesized hmade wide world 0, hkept]

end Product

end Provision
