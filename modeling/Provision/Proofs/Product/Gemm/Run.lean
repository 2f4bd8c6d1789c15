import Provision.Proofs.Product.Gemm.Nest

/-!
# Running the matrix-matrix product

The code of the matrix-matrix product does to memory what the loop nest says, and returns zero.
-/

namespace Provision
namespace Gemm

variable {σ : Type} (invoke : FuncId -> Behaviour σ) (world : World σ) {f : Binary.Format}
  {call : Arguments f} {frame : Frame} {i p j : BitVec 32}

/-! ## One product -/

theorem leads_offsets (h : Holds call frame) (hi : frame.value? 26 = some (.int .w32 i))
    (hp : frame.value? 29 = some (.int .w32 p)) (hj : frame.value? 32 = some (.int .w32 j)) :
    exists after, Instruction.Leads invoke offsets 34 (frame, world) (after, world) [] ∧
      after.value? 38 = some (.int .w32 (Arguments.offset (call.transA = 112) call.lda i p)) ∧
      after.value? 43 = some (.int .w32 (Arguments.offset (call.transB = 112) call.ldb p j)) ∧
      after.value? 45 = some (.int .w32 (i * call.ldc + j)) := by
  rcases Block.leads_matrixOffset invoke world 34 h.flagA hi h.lda hp (by decide) (by decide)
    (by decide) (by decide) with ⟨first, hfirst, hoffsetA⟩
  have hfirstHolds := h.keeps hfirst.keeps (by decide)
  rcases Block.leads_matrixOffset invoke world 39 hfirstHolds.flagB
    (hfirst.keeps.value? hp (by decide)) hfirstHolds.ldb (hfirst.keeps.value? hj (by decide))
    (by decide) (by decide) (by decide) (by decide) with ⟨second, hsecond, hoffsetB⟩
  have hkeeps := hfirst.keeps.trans (by decide) hsecond.keeps
  have hsecondHolds := h.keeps hkeeps (by decide)
  rcases Block.leads_multiplyAdd invoke world 44 (hkeeps.value? hi (by decide)) hsecondHolds.ldc
    (hkeeps.value? hj (by decide)) (by decide) with ⟨third, hthird, hoffsetC⟩
  refine ⟨third, hfirst.append (by decide) (hsecond.append (by decide) hthird), ?_, ?_, hoffsetC⟩
  · exact (hsecond.keeps.trans (by decide) hthird.keeps).value? hoffsetA (by decide)
  · exact hthird.keeps.value? hoffsetB (by decide)

theorem leads_operands (h : Holds call frame) {x y z : BitVec 32}
    (hx : frame.value? 38 = some (.int .w32 x)) (hy : frame.value? 43 = some (.int .w32 y))
    (hz : frame.value? 45 = some (.int .w32 z)) :
    exists after, Instruction.Leads invoke (operands f) 46 (frame, world) (after, world)
        [ .load (Memory.elementAddress (.float f) call.a x) (MachineType.float f).bytes,
          .load (Memory.elementAddress (.float f) call.b y) (MachineType.float f).bytes,
          .load (Memory.elementAddress (.float f) call.c z) (MachineType.float f).bytes ] ∧
      after.value? 49 =
        some (.float f (world.memory.float f (Memory.elementAddress (.float f) call.a x))) ∧
      after.value? 53 =
        some (.float f (world.memory.float f (Memory.elementAddress (.float f) call.b y))) ∧
      after.value? 57 =
        some (.float f (world.memory.float f (Memory.elementAddress (.float f) call.c z))) := by
  rcases Block.leads_fetch invoke world (.float f) 46 h.a hx (by decide) with
    ⟨first, hfirst, helementA⟩
  have hfirstHolds := h.keeps hfirst.keeps (by decide)
  rcases Block.leads_fetch invoke world (.float f) 50 hfirstHolds.b
    (hfirst.keeps.value? hy (by decide)) (by decide) with ⟨second, hsecond, helementB⟩
  have hkeeps := hfirst.keeps.trans (by decide) hsecond.keeps
  rcases Block.leads_fetch invoke world (.float f) 54 (h.keeps hkeeps (by decide)).c
    (hkeeps.value? hz (by decide)) (by decide) with ⟨third, hthird, helementC⟩
  refine ⟨third, hfirst.append (by decide) (hsecond.append (by decide) hthird), ?_, ?_, helementC⟩
  · exact (hsecond.keeps.trans (by decide) hthird.keeps).value? helementA (by decide)
  · exact hthird.keeps.value? helementB (by decide)

theorem leads_sum {x y z : Binary.Pattern f} (hx : frame.value? 49 = some (.float f x))
    (hy : frame.value? 53 = some (.float f y)) (hz : frame.value? 57 = some (.float f z)) :
    exists after, Instruction.Leads invoke (sum 58 57) 58 (frame, world) (after, world) [] ∧
      after.value? 59 = some (.float f ((x.mul y).add z)) := by
  have hproduct : (Operation.float .mul 49 53).eval frame.value? = some (.float f (x.mul y)) := by
    simp [Operation.eval, hx, hy, Operation.onFloats, Scalar.asFloat?_float, FloatOperator.apply]
  have hsum : (Operation.float .add 58 57).eval (frame.bind 58 (.float f (x.mul y))).value? =
      some (.float f ((x.mul y).add z)) := by
    simp [Operation.eval, hz, Operation.onFloats, Scalar.asFloat?_float, FloatOperator.apply]
  refine ⟨_, (Instruction.leads_compute hproduct).append (by decide)
    (Instruction.leads_compute hsum), ?_⟩
  simp

theorem leads_accumulate (h : Holds call frame) (hi : frame.value? 26 = some (.int .w32 i))
    (hp : frame.value? 29 = some (.int .w32 p)) (hj : frame.value? 32 = some (.int .w32 j)) :
    exists after,
      Instruction.Leads invoke (accumulate f 58 57) 34 (frame, world)
          (after, world.onMemory (call.accumulate i p j)) (call.accumulates i p j) ∧
        after.value? 63 = some (.int .w32 (j + 1)) := by
  rcases leads_offsets invoke world h hi hp hj with ⟨placed, hplaced, hx, hy, hz⟩
  rcases leads_operands invoke world (h.keeps hplaced.keeps (by decide)) hx hy hz with
    ⟨loaded, hloaded, helementA, helementB, helementC⟩
  have hkeepsLoaded := hplaced.keeps.trans (by decide) hloaded.keeps
  rcases leads_sum invoke world helementA helementB helementC with ⟨summed, hsummed, hsum⟩
  have hkeepsSummed := hkeepsLoaded.trans (by decide) hsummed.keeps
  have hplace := (hloaded.keeps.trans (by decide) hsummed.keeps).value? hz (by decide)
  rcases Block.leads_put invoke world (.float f) 60 (h.keeps hkeepsSummed (by decide)).c hplace hsum
    (by decide) (by decide) with ⟨stored, hstored⟩
  have hkeepsStored := hkeepsSummed.trans (by decide) hstored.keeps
  rcases Instruction.leads_increment invoke
    (world.onMemory (call.accumulate i p j)) 63
    (hkeepsStored.value? hj (by decide)) with ⟨after, hafter, hnext⟩
  exact ⟨after, hplaced.append (by decide) (hloaded.append (by decide)
    (hsummed.append (by decide) (hstored.append (by decide) hafter))), hnext⟩

/-! ## Loops -/

theorem ends_overColumns (h : Holds call frame) (hi : frame.value? 26 = some (.int .w32 i))
    (hp : frame.value? 29 = some (.int .w32 p)) :
    exists after,
      (overColumns f 58 57).Ends invoke (frame, world)
          (after, world.onMemory (call.overColumns i p))
          ((below call.n).flatMap fun j => call.accumulates i p j) ∧
        after.value? 64 = some (.int .w32 (p + 1)) := by
  have henter : forall (x : BitVec 32) goesOn,
      frame.Keeps 31 (columns.enter (frame.bind 31 (.int .w32 0)) x [] goesOn) :=
    columns.keeps_pass frame rfl (by decide) (by decide) (by decide)
  have hpass : forall (x : BitVec 32) world, exists after : Frame,
      Region.Ends invoke (.ofSteps (accumulate f 58 57))
          (columns.enter (frame.bind 31 (.int .w32 0)) x [] true, world)
          (after, world.onMemory (call.accumulate i p x)) (call.accumulates i p x) ∧
        after.value? 63 = some (.int .w32 (x + 1)) := by
    intro x world
    have hkeeps := henter x true
    rcases leads_accumulate invoke world (h.keeps hkeeps (by decide))
      (hkeeps.value? hi (by decide)) (hkeeps.value? hp (by decide))
      (columns.value?_enter_index (by decide) x [] true) with ⟨after, hafter, hnext⟩
    exact ⟨after, hafter.ofSteps, hnext⟩
  rcases Instruction.leads_increment invoke (world.onMemory (call.overColumns i p)) 64
    ((henter _ false).value? hp (by decide)) with ⟨after, hafter, hnext⟩
  have hloop := columns.ends_loop invoke world (by decide) rfl h.n (by decide) (by decide)
    (fun x => call.accumulate i p x) (fun x => call.accumulates i p x) hpass hafter.ofSteps
  rw [List.append_nil] at hloop
  exact ⟨after, hloop, hnext⟩

theorem ends_overTerms (h : Holds call frame) (hi : frame.value? 26 = some (.int .w32 i)) :
    exists after,
      (overTerms f 58 57).Ends invoke (frame, world) (after, world.onMemory (call.overTerms i))
          ((below call.k).flatMap fun p =>
            (below call.n).flatMap fun j => call.accumulates i p j) ∧
        after.value? 65 = some (.int .w32 (i + 1)) := by
  have henter : forall (x : BitVec 32) goesOn,
      frame.Keeps 28 (terms.enter (frame.bind 28 (.int .w32 0)) x [] goesOn) :=
    terms.keeps_pass frame rfl (by decide) (by decide) (by decide)
  have hpass : forall (x : BitVec 32) world, exists after : Frame,
      (overColumns f 58 57).Ends invoke
          (terms.enter (frame.bind 28 (.int .w32 0)) x [] true, world)
          (after, world.onMemory (call.overColumns i x))
          ((below call.n).flatMap fun j => call.accumulates i x j) ∧
        after.value? 64 = some (.int .w32 (x + 1)) := by
    intro x world
    have hkeeps := henter x true
    exact ends_overColumns invoke world (h.keeps hkeeps (by decide))
      (hkeeps.value? hi (by decide)) (terms.value?_enter_index (by decide) x [] true)
  rcases Instruction.leads_increment invoke (world.onMemory (call.overTerms i)) 65
    ((henter _ false).value? hi (by decide)) with ⟨after, hafter, hnext⟩
  have hloop := terms.ends_loop invoke world (by decide) rfl h.k (by decide) (by decide)
    (fun x => call.overColumns i x)
    (fun x => (below call.n).flatMap fun j => call.accumulates i x j) hpass hafter.ofSteps
  rw [List.append_nil] at hloop
  exact ⟨after, hloop, hnext⟩

theorem ends_overRows (h : Holds call frame) :
    exists after,
      (overRows f 58 57).Ends invoke (frame, world) (after, world.onMemory call.overRows)
          ((below call.m).flatMap fun i =>
            (below call.k).flatMap fun p =>
              (below call.n).flatMap fun j => call.accumulates i p j) ∧
        after.value? 66 = some (.int .w32 0) := by
  have henter : forall (x : BitVec 32) goesOn,
      frame.Keeps 25 (rows.enter (frame.bind 25 (.int .w32 0)) x [] goesOn) :=
    rows.keeps_pass frame rfl (by decide) (by decide) (by decide)
  have hpass : forall (x : BitVec 32) world, exists after : Frame,
      (overTerms f 58 57).Ends invoke
          (rows.enter (frame.bind 25 (.int .w32 0)) x [] true, world)
          (after, world.onMemory (call.overTerms x))
          ((below call.k).flatMap fun p =>
            (below call.n).flatMap fun j => call.accumulates x p j) ∧
        after.value? 65 = some (.int .w32 (x + 1)) := by
    intro x world
    exact ends_overTerms invoke world (h.keeps (henter x true) (by decide))
      (rows.value?_enter_index (by decide) x [] true)
  let last := rows.enter (frame.bind 25 (.int .w32 0)) (BitVec.ofNat _ call.m.toInt.toNat) [] false
  have hzero : Instruction.Leads invoke [.compute 66 (.constInt .i32 0)] 66
      (last, world.onMemory call.overRows)
      (last.bind 66 (.int .w32 0), world.onMemory call.overRows) [] :=
    Instruction.leads_compute rfl
  have hloop := rows.ends_loop invoke world (by decide) rfl h.m (by decide) (by decide)
    (fun x => call.overTerms x)
    (fun x => (below call.k).flatMap fun p =>
      (below call.n).flatMap fun j => call.accumulates x p j) hpass hzero.ofSteps
  rw [List.append_nil] at hloop
  exact ⟨_, hloop, by simp⟩

/-! ## The result is zeroed -/

theorem leads_clear (h : Holds call frame) (hi : frame.value? 18 = some (.int .w32 i)) :
    exists after,
      Instruction.Leads invoke (clear f) 20 (frame, world)
          (after, world.onMemory (call.clear i)) (call.clears i) ∧
        after.value? 24 = some (.int .w32 (i + 1)) := by
  have hzero : Instruction.Leads invoke [.compute 20 (.constFloat f 0)] 20 (frame, world)
      (frame.bind 20 (.float f (Binary.Pattern.zero f)), world) [] :=
    Instruction.leads_compute rfl
  have hvalue : (frame.bind 20 (.float f (Binary.Pattern.zero f))).value? 20 =
      some (.float f (Binary.Pattern.zero f)) := by
    simp
  rcases Block.leads_put invoke world (.float f) 21 (h.keeps hzero.keeps (by decide)).c
    (hzero.keeps.value? hi (by decide)) hvalue (by decide) (by decide) with ⟨stored, hstored⟩
  have hkeeps := hzero.keeps.trans (by decide) hstored.keeps
  rcases Instruction.leads_increment invoke (world.onMemory (call.clear i)) 24
    (hkeeps.value? hi (by decide)) with ⟨after, hafter, hnext⟩
  exact ⟨after, hzero.append (by decide) (hstored.append (by decide) hafter), hnext⟩

theorem ends_clearing (h : Holds call frame) :
    exists after,
      Region.Ends invoke
          (.step (.compute 17 (.constInt .i32 0))
            (.loop clearing.header (.ofSteps (clear f)) (overRows f 58 57))) (frame, world)
          (after, world.onMemory call.result) call.effects ∧
        after.value? 66 = some (.int .w32 0) := by
  have henter : forall (x : BitVec 32) goesOn,
      frame.Keeps 17 (clearing.enter (frame.bind 17 (.int .w32 0)) x [] goesOn) :=
    clearing.keeps_pass frame rfl (by decide) (by decide) (by decide)
  have hpass : forall (x : BitVec 32) world, exists after : Frame,
      Region.Ends invoke (.ofSteps (clear f))
          (clearing.enter (frame.bind 17 (.int .w32 0)) x [] true, world)
          (after, world.onMemory (call.clear x)) (call.clears x) ∧
        after.value? 24 = some (.int .w32 (x + 1)) := by
    intro x world
    rcases leads_clear invoke world (h.keeps (henter x true) (by decide))
      (clearing.value?_enter_index (by decide) x [] true) with ⟨after, hafter, hnext⟩
    exact ⟨after, hafter.ofSteps, hnext⟩
  rcases ends_overRows invoke
    (world.onMemory (repeatBelow (call.ldc * call.m) fun x => call.clear x))
    (h.keeps (henter _ false) (by decide)) with ⟨after, hafter, hzero⟩
  exact ⟨after, clearing.ends_loop invoke world (by decide) rfl h.count (by decide) (by decide)
    (fun x => call.clear x) (fun x => call.clears x) hpass hafter, hzero⟩

/-! ## The procedure -/

/-- The arguments are bound, and the prologue computes what else is needed. -/
theorem leads_prologue (call : Arguments f) (slots : List Memory.Address) :
    exists after,
      Instruction.Leads invoke prologue 14 (Frame.start call.toList slots, world) (after, world)
          [] ∧
        Holds call after := by
  let start := Frame.start call.toList slots
  let withA := start.bind 14 (.truth (call.transA = 112))
  let withB := withA.bind 15 (.truth (call.transB = 112))
  have hflagA : Instruction.Leads invoke [.compute 14 (.equalsImmediate 1 112)] 14 (start, world)
      (withA, world) [] :=
    Instruction.leads_compute rfl
  have hflagB : Instruction.Leads invoke [.compute 15 (.equalsImmediate 2 112)] 15 (withA, world)
      (withB, world) [] :=
    Instruction.leads_compute rfl
  have hcount : Instruction.Leads invoke [.compute 16 (.int .mul 13 3)] 16 (withB, world)
      (withB.bind 16 (.int .w32 (call.ldc * call.m)), world) [] :=
    Instruction.leads_compute rfl
  refine ⟨_, hflagA.append (by decide) (hflagB.append (by decide) hcount), ?_⟩
  exact
    { m := rfl
      n := rfl
      k := rfl
      a := rfl
      lda := rfl
      b := rfl
      ldb := rfl
      c := rfl
      ldc := rfl
      flagA := rfl
      flagB := rfl
      count := rfl }

/-- The procedure always comes to its end.  It returns zero and changes nothing but memory. -/
theorem returns_procedure (call : Arguments f) :
    (procedure f).Returns invoke call.toList world [.int .w32 0] (world.onMemory call.result)
      call.effects := by
  rcases leads_prologue invoke world call [] with ⟨prepared, hprepared, hholds⟩
  rcases ends_clearing invoke world hholds with ⟨after, hafter, hzero⟩
  have hresults : [66].mapM after.value? = some [.int .w32 0] := by
    simp [hzero]
  exact (procedure f).returns_of_slots_nil rfl (hprepared.prepend hafter) hresults

end Gemm
end Provision
