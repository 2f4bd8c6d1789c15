import Provision.Proofs.Code.Frame

/-!
# What code comes to

Code that comes to its end does so in one state, by way of the effects in its trace.  This is put
together for regions from their parts, and carried from code to procedures and programs.
-/

namespace Provision

/-! ## Regions -/

variable {σ : Type} {invoke : FuncId -> Behaviour σ}

/-- Code comes from one state to its end in another, by way of some effects. -/
structure Region.Ends (invoke : FuncId -> Behaviour σ) (code : Code)
    (before after : Frame × World σ) (effects : List Effect) : Prop where
  runs : code.run invoke before = some after
  does : code.trace invoke before = effects

theorem Instruction.Leads.prepend {steps : List Instruction} {rest : Code} {first : ValueId}
    {a b c : Frame × World σ} {effects more : List Effect}
    (hsteps : Leads invoke steps first a b effects) (hrest : rest.Ends invoke b c more) :
    Region.Ends invoke (.prepend steps rest) a c (effects ++ more) where
  runs := by
    rw [Region.run_prepend, hsteps.runs]
    exact hrest.runs
  does := by
    rw [Region.trace_prepend, hsteps.runs, hsteps.does]
    exact congrArg (effects ++ ·) hrest.does

theorem Region.run_ofSteps (invoke : FuncId -> Behaviour σ) (steps : List Instruction)
    (state : Frame × World σ) :
    run invoke (.ofSteps steps) state = Instruction.runAll invoke steps state := by
  rw [ofSteps, run_prepend]
  cases Instruction.runAll invoke steps state with
  | none => rfl
  | some after => rfl

theorem Instruction.Leads.ofSteps {steps : List Instruction} {first : ValueId}
    {before after : Frame × World σ} {effects : List Effect}
    (h : Leads invoke steps first before after effects) :
    Region.Ends invoke (.ofSteps steps) before after effects where
  runs := (Region.run_ofSteps invoke steps before).trans h.runs
  does := (Region.trace_ofSteps invoke steps before).trans h.does

/-- A loop comes from one state to its end in another, by way of some effects. -/
structure LoopHeader.Ends (invoke : FuncId -> Behaviour σ) (header : LoopHeader) (body : Code)
    (before after : Frame × World σ) (effects : List Effect) : Prop where
  runs : header.iterate invoke (body.run invoke) before = some after
  does : header.trace invoke (body.run invoke) (body.trace invoke) before = effects

theorem LoopHeader.Ends.loop {header : LoopHeader} {body rest : Code} {a b c : Frame × World σ}
    {effects more : List Effect} (hloop : header.Ends invoke body a b effects)
    (hrest : rest.Ends invoke b c more) :
    Region.Ends invoke (.loop header body rest) a c (effects ++ more) where
  runs := by
    rw [Region.run_loop, hloop.runs]
    exact hrest.runs
  does := by
    simp only [Region.trace, hloop.runs]
    rw [hrest.does]
    exact congrArg (· ++ more) hloop.does

/-! ## Procedures -/

/-- A procedure that is called returns results, by way of some effects. -/
structure Procedure.Returns (invoke : FuncId -> Behaviour σ) (procedure : Procedure)
    (arguments : List Scalar) (world : World σ) (results : List Scalar) (after : World σ)
    (effects : List Effect) : Prop where
  runs : procedure.run invoke arguments world = some (results, after)
  does : procedure.trace invoke arguments world = effects

/-- A procedure runs its code with its slots below the stack as it finds it. -/
theorem Procedure.returns_of_code (procedure : Procedure) {arguments results : List Scalar}
    {slots : List Memory.Address} {bottom : Memory.Address} {frame : Frame}
    {world after : World σ} {effects : List Effect}
    (hbottom : StackSlot.bottom procedure.slots world.stack = bottom)
    (hslots : StackSlot.addresses procedure.slots bottom = slots)
    (hcode : procedure.code.Ends invoke
      (Frame.start arguments slots, { world with stack := bottom }) (frame, after) effects)
    (hresults : procedure.results.mapM frame.value? = some results) :
    procedure.Returns invoke arguments world results { after with stack := world.stack }
      effects := by
  subst hbottom
  subst hslots
  constructor
  · simp only [Procedure.run]
    rw [hcode.runs]
    simp [hresults]
  · exact hcode.does

theorem Procedure.returns_of_slots_nil (procedure : Procedure) (hslots : procedure.slots = [])
    {arguments results : List Scalar} {frame : Frame} {world after : World σ}
    {effects : List Effect}
    (hcode : procedure.code.Ends invoke (Frame.start arguments [], world) (frame, after) effects)
    (hresults : procedure.results.mapM frame.value? = some results) :
    procedure.Returns invoke arguments world results { after with stack := world.stack }
      effects := by
  have hbottom : StackSlot.bottom procedure.slots world.stack = world.stack := by
    have hsize : StackSlot.frameSize [] = 0 := by decide
    simp [hslots, StackSlot.bottom, hsize]
  refine procedure.returns_of_code hbottom ?_ hcode hresults
  rw [hslots]
  rfl

/-! ## Programs -/

/-- A function of a program that is invoked returns results, by way of some effects of its own. -/
structure Executable.Returns (program : Executable σ) (depth : Nat) (id : FuncId)
    (arguments : List Scalar) (world : World σ) (results : List Scalar) (after : World σ)
    (effects : List Effect) : Prop where
  runs : program.invoke depth id arguments world = some (results, after)
  does : program.trace depth id arguments world = effects

theorem Procedure.Returns.ofProgram {program : Executable σ} {id : FuncId} {depth : Nat}
    {procedure : Procedure} {arguments results : List Scalar} {world after : World σ}
    {effects : List Effect}
    (h : procedure.Returns (program.invoke depth) arguments world results after effects)
    (hprocedure : program.procedure? id = some procedure) :
    program.Returns (depth + 1) id arguments world results after effects where
  runs := by
    rw [Executable.invoke_of_procedure hprocedure]
    exact h.runs
  does := (Executable.trace_of_procedure hprocedure depth arguments world).trans h.does

end Provision
