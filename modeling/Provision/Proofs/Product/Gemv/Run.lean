import Provision.Proofs.Product.Gemv.Code
import Provision.Proofs.Provider.Synthesized

/-!
# Running the matrix-vector product

What the code of the matrix-vector product does to memory: row by row it adds up terms and stores
their sum.  It comes to its end for all arguments and on every memory, and returns zero.
-/

namespace Provision
namespace Gemv

/-! ## Arguments -/

/-- The arguments of a matrix-vector product over numbers of a format. -/
structure Arguments (f : Binary.Format) where
  order : BitVec 32
  trans : BitVec 32
  m : BitVec 32
  n : BitVec 32
  alpha : Binary.Pattern f
  a : Memory.Address
  lda : BitVec 32
  x : Memory.Address
  incx : BitVec 32
  beta : Binary.Pattern f
  y : Memory.Address
  incy : BitVec 32

namespace Arguments

variable {f : Binary.Format}

def toList (call : Arguments f) : List Scalar :=
  [ .int .w32 call.order, .int .w32 call.trans, .int .w32 call.m, .int .w32 call.n,
    .float f call.alpha, .address call.a, .int .w32 call.lda, .address call.x,
    .int .w32 call.incx, .float f call.beta, .address call.y, .int .w32 call.incy ]

/-- Address of the element of the matrix in a row and a column. -/
def addressA (call : Arguments f) (i j : BitVec 32) : Memory.Address :=
  Memory.elementAddress (.float f) call.a (i * call.lda + j)

def addressX (call : Arguments f) (j : BitVec 32) : Memory.Address :=
  Memory.elementAddress (.float f) call.x (j * call.incx)

/-- Address of the result of a row. -/
def addressY (call : Arguments f) (i : BitVec 32) : Memory.Address :=
  Memory.elementAddress (.float f) call.y (i * call.incy)

/-! ## Loops -/

def term (call : Arguments f) (memory : Memory) (i j : BitVec 32) : Binary.Pattern f :=
  (memory.float f (call.addressA i j)).mul (memory.float f (call.addressX j))

/-- The terms of a row are added up from zero on, each one behind the sum so far. -/
def row (call : Arguments f) (memory : Memory) (i : BitVec 32) : Binary.Pattern f :=
  repeatBelow call.n (fun j sum => sum.add (call.term memory i j)) (Binary.Pattern.zero f)

def storeRow (call : Arguments f) (i : BitVec 32) (memory : Memory) : Memory :=
  memory.store (call.addressY i) (.float f (call.row memory i))

/-- The memory that the product leaves. -/
def result (call : Arguments f) : Memory -> Memory :=
  repeatBelow call.m call.storeRow

/-! ## Effects -/

def accumulates (call : Arguments f) (i j : BitVec 32) : List Effect :=
  [ .load (call.addressA i j) (MachineType.float f).bytes,
    .load (call.addressX j) (MachineType.float f).bytes ]

/-- What a row does: it goes over its terms and stores their sum. -/
def rowEffects (call : Arguments f) (i : BitVec 32) : List Effect :=
  (below call.n).flatMap (call.accumulates i) ++
    [.store (call.addressY i) (MachineType.float f).bytes]

def effects (call : Arguments f) : List Effect :=
  (below call.m).flatMap call.rowEffects

end Arguments

/-! ## Frames -/

/-- A frame holds the arguments that are used. -/
structure Holds {f : Binary.Format} (call : Arguments f) (frame : Frame) : Prop where
  m : frame.value? 2 = some (.int .w32 call.m)
  n : frame.value? 3 = some (.int .w32 call.n)
  a : frame.value? 5 = some (.address call.a)
  lda : frame.value? 6 = some (.int .w32 call.lda)
  x : frame.value? 7 = some (.address call.x)
  incx : frame.value? 8 = some (.int .w32 call.incx)
  y : frame.value? 10 = some (.address call.y)
  incy : frame.value? 11 = some (.int .w32 call.incy)

section Running

variable {σ : Type} (invoke : FuncId -> Behaviour σ) (world : World σ) {f : Binary.Format}
  {call : Arguments f} {frame after : Frame} {i j : BitVec 32}

theorem Holds.keeps (h : Holds call frame) {first : ValueId} (hkeeps : frame.Keeps first after)
    (hfirst : 12 ≤ first) : Holds call after := by
  have hstill : forall {value : ValueId} {x : Scalar}, frame.value? value = some x ->
      value < 12 -> after.value? value = some x :=
    fun hvalue hlt => hkeeps.value? hvalue (Nat.lt_of_lt_of_le hlt hfirst)
  exact
    { m := hstill h.m (by decide)
      n := hstill h.n (by decide)
      a := hstill h.a (by decide)
      lda := hstill h.lda (by decide)
      x := hstill h.x (by decide)
      incx := hstill h.incx (by decide)
      y := hstill h.y (by decide)
      incy := hstill h.incy (by decide) }

/-! ## One term -/

theorem leads_offsets (h : Holds call frame) (hi : frame.value? 15 = some (.int .w32 i))
    (hj : frame.value? 20 = some (.int .w32 j)) :
    exists after, Instruction.Leads invoke offsets 23 (frame, world) (after, world) [] ∧
      after.value? 24 = some (.int .w32 (i * call.lda + j)) ∧
      after.value? 25 = some (.int .w32 (j * call.incx)) := by
  rcases Block.leads_multiplyAdd invoke world 23 hi h.lda hj (by decide) with
    ⟨first, hfirst, hoffsetA⟩
  have hincx := (h.keeps hfirst.keeps (by decide)).incx
  have hj := hfirst.keeps.value? hj (by decide)
  have hoffsetX : (Operation.int .mul 20 8).eval first.value? =
      some (.int .w32 (j * call.incx)) :=
    (Arithmetic.int .w32).eval_product _ _ _ _ _ hj hincx
  refine ⟨_, hfirst.append (by decide) (Instruction.leads_compute hoffsetX), ?_, ?_⟩
  · simpa using hoffsetA
  · simp

theorem leads_accumulate (h : Holds call frame) {s : Binary.Pattern f}
    (hi : frame.value? 15 = some (.int .w32 i)) (hj : frame.value? 20 = some (.int .w32 j))
    (hs : frame.value? 21 = some (.float f s)) :
    exists after,
      Instruction.Leads invoke (accumulate f) 23 (frame, world) (after, world)
          (call.accumulates i j) ∧
        after.value? 36 = some (.int .w32 (j + 1)) ∧
          after.value? 35 = some (.float f (s.add (call.term world.memory i j))) := by
  rcases leads_offsets invoke world h hi hj with ⟨placed, hplaced, hoffsetA, hoffsetX⟩
  have hholds := h.keeps hplaced.keeps (by decide)
  rcases Block.leads_addProduct invoke world (.float f) 26 hholds.a hoffsetA hholds.x hoffsetX
    (hplaced.keeps.value? hs (by decide)) (by decide) (by decide) (by decide) (by decide) with
    ⟨summed, hsummed, hsum⟩
  have hkeeps := hplaced.keeps.trans (by decide) hsummed.keeps
  rcases Instruction.leads_increment invoke world 36 (hkeeps.value? hj (by decide)) with
    ⟨after, hafter, hnext⟩
  exact ⟨after, hplaced.append (by decide) (hsummed.append (by decide) hafter), hnext,
    hafter.keeps.value? hsum (by decide)⟩

/-! ## Rows -/

theorem leads_conclude (h : Holds call frame) {s : Binary.Pattern f}
    (hi : frame.value? 15 = some (.int .w32 i)) (hs : frame.value? 21 = some (.float f s)) :
    exists after,
      Instruction.Leads invoke (conclude f) 37 (frame, world)
          (after,
            { world with memory := world.memory.store (call.addressY i) (.float f s) })
          [.store (call.addressY i) (MachineType.float f).bytes] ∧
        after.value? 41 = some (.int .w32 (i + 1)) := by
  have hoffset : (Operation.int .mul 15 11).eval frame.value? =
      some (.int .w32 (i * call.incy)) :=
    (Arithmetic.int .w32).eval_product _ _ _ _ _ hi h.incy
  have hplaced : Instruction.Leads invoke [.compute 37 (.int .mul 15 11)] 37 (frame, world)
      (frame.bind 37 (.int .w32 (i * call.incy)), world) [] :=
    Instruction.leads_compute hoffset
  have hindex : (frame.bind 37 (.int .w32 (i * call.incy))).value? 37 =
      some (.int .w32 (i * call.incy)) := by
    simp
  rcases Block.leads_put invoke world (.float f) 38 (h.keeps hplaced.keeps (by decide)).y
    hindex (hplaced.keeps.value? hs (by decide)) (by decide) (by decide) with
    ⟨stored, hstored⟩
  have hkeeps := hplaced.keeps.trans (by decide) hstored.keeps
  rcases Instruction.leads_increment invoke
    { world with memory := world.memory.store (call.addressY i) (.float f s) } 41
    (hkeeps.value? hi (by decide)) with ⟨after, hafter, hnext⟩
  exact ⟨after, hplaced.append (by decide) (hstored.append (by decide) hafter), hnext⟩

theorem ends_overTerms (h : Holds call frame) (hi : frame.value? 15 = some (.int .w32 i)) :
    exists after,
      (overTerms f).Ends invoke (frame, world) (after, world.onMemory (call.storeRow i))
          (call.rowEffects i) ∧
        after.value? 41 = some (.int .w32 (i + 1)) := by
  let begun := frame.bind 18 (.float f (Binary.Pattern.zero f))
  have hbegun : Instruction.Leads invoke [.compute 18 (.constFloat f 0)] 18 (frame, world)
      (begun, world) [] :=
    Instruction.leads_compute rfl
  let enter := fun (x : BitVec 32) (s : Binary.Pattern f) goesOn =>
    (terms f).enter (begun.bind 19 (.int .w32 0)) x [.float f s] goesOn
  have hkeeps : forall x s goesOn, frame.Keeps 18 (enter x s goesOn) :=
    fun x s goesOn =>
      hbegun.keeps.trans (by decide) ((carries_terms f).keeps_pass begun x [.float f s] goesOn)
  have hsum : forall x s goesOn, (enter x s goesOn).value? 21 = some (.float f s) :=
    fun x s goesOn => (carries_terms f).value?_local _ x _ goesOn
  have hpass : forall (x : BitVec 32) (s : Binary.Pattern f), exists after : Frame,
      Region.Ends invoke (.ofSteps (accumulate f)) (enter x s true, world) (after, world)
          (call.accumulates i x) ∧
        after.value? 36 = some (.int .w32 (x + 1)) ∧
          after.value? 35 = some (.float f (s.add (call.term world.memory i x))) := by
    intro x s
    have hindex : (enter x s true).value? 20 = some (.int .w32 x) :=
      (terms f).value?_enter_index (carries_terms f).index_ne_test x _ true
    rcases leads_accumulate invoke world (h.keeps (hkeeps x s true) (by decide))
      ((hkeeps x s true).value? hi (by decide)) hindex (hsum x s true) with
      ⟨after, hafter, hnext, hstate⟩
    exact ⟨after, hafter.ofSteps, hnext, hstate⟩
  have hzero : begun.value? 18 = some (.float f (Binary.Pattern.zero f)) := by
    simp [begun]
  let last := enter (BitVec.ofNat _ call.n.toInt.toNat) (call.row world.memory i) false
  have hlast : frame.Keeps 18 last := hkeeps _ _ false
  rcases leads_conclude invoke world (h.keeps hlast (by decide)) (hlast.value? hi (by decide))
    (hsum _ _ false) with ⟨after, hafter, hnext⟩
  have hloop := (carries_terms f).ends_loop invoke world (h.keeps hbegun.keeps (by decide)).n
    (Scalar.float f) hzero (fun j s => s.add (call.term world.memory i j)) (call.accumulates i)
    hpass hafter.ofSteps
  exact ⟨after, hbegun.prepend hloop, hnext⟩

/-! ## The procedure -/

theorem ends_code (h : Holds call frame) :
    exists after,
      (code f).Ends invoke (frame, world) (after, world.onMemory call.result) call.effects ∧
        after.value? 42 = some (.int .w32 0) := by
  let begun := frame.bind 13 (.float f (Binary.Pattern.zero f))
  have hbegun : Instruction.Leads invoke [.compute 13 (.constFloat f 0)] 13 (frame, world)
      (begun, world) [] :=
    Instruction.leads_compute rfl
  have henter : forall (x : BitVec 32) goesOn,
      begun.Keeps 14 (rows.enter (begun.bind 14 (.int .w32 0)) x [] goesOn) :=
    rows.keeps_pass begun rfl (by decide) (by decide) (by decide)
  have hpass : forall (x : BitVec 32) world, exists after : Frame,
      (overTerms f).Ends invoke (rows.enter (begun.bind 14 (.int .w32 0)) x [] true, world)
          (after, world.onMemory (call.storeRow x)) (call.rowEffects x) ∧
        after.value? 41 = some (.int .w32 (x + 1)) := by
    intro x world
    have hkeeps := hbegun.keeps.trans (by decide) (henter x true)
    exact ends_overTerms invoke world (h.keeps hkeeps (by decide))
      (rows.value?_enter_index (by decide) x [] true)
  let last := rows.enter (begun.bind 14 (.int .w32 0)) (BitVec.ofNat _ call.m.toInt.toNat) [] false
  have hstatus : Instruction.Leads invoke [.compute 42 (.constInt .i32 0)] 42
      (last, world.onMemory call.result)
      (last.bind 42 (.int .w32 0), world.onMemory call.result) [] :=
    Instruction.leads_compute rfl
  have hloop := rows.ends_loop invoke world (by decide) rfl (h.keeps hbegun.keeps (by decide)).m
    (by decide) (by decide) call.storeRow call.rowEffects hpass hstatus.ofSteps
  rw [List.append_nil] at hloop
  exact ⟨last.bind 42 (.int .w32 0), hbegun.prepend hloop, by simp⟩

/-- The procedure always comes to its end.  It returns zero and changes nothing but memory. -/
theorem returns_procedure (call : Arguments f) :
    (procedure f).Returns invoke call.toList world [.int .w32 0] (world.onMemory call.result)
      call.effects := by
  have hholds : Holds call (Frame.start call.toList []) :=
    { m := rfl
      n := rfl
      a := rfl
      lda := rfl
      x := rfl
      incx := rfl
      y := rfl
      incy := rfl }
  rcases ends_code invoke world hholds with ⟨after, hcode, hzero⟩
  have hresults : [42].mapM after.value? = some [.int .w32 0] := by
    simp [hzero]
  exact (procedure f).returns_of_slots_nil rfl hcode hresults

theorem returns_synthesized {program : Executable σ} {id : FuncId}
    (hmade : program.Synthesized id (Provider.kernel .gemv (.ofFormat f) .module))
    (call : Arguments f) (depth : Nat) :
    program.Returns (depth + 1) id call.toList world [.int .w32 0] (world.onMemory call.result)
      call.effects :=
  (returns_procedure (program.invoke depth) world call).ofProgram
    (hmade.procedure?_kernel (procedure_eq f))

theorem invoke_synthesized {program : Executable σ} {id : FuncId}
    (hmade : program.Synthesized id (Provider.kernel .gemv (.ofFormat f) .module))
    (call : Arguments f) (depth : Nat) :
    program.invoke (depth + 1) id call.toList world =
      some ([.int .w32 0], world.onMemory call.result) :=
  (returns_synthesized world hmade call depth).runs

end Running
end Gemv
end Provision
