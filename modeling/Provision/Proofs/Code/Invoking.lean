import Provision.Proofs.Code.Ending
import Provision.Proofs.Code.Renumber

/-!
# Running renumbered code

Code whose callees go by other numbers runs as the code does where each of its calls reaches what
the other number stands for, and its trace is that of the code with the other numbers in it.
-/

namespace Provision

def Effect.renumber (number : FuncId -> FuncId) : Effect -> Effect
  | call callee arguments => call (number callee) arguments
  | other => other

variable {σ : Type} (number : FuncId -> FuncId) (invoke : FuncId -> Behaviour σ)

namespace Instruction

theorem run_renumber (instruction : Instruction) (state : Frame × World σ) :
    (instruction.renumber number).run invoke state =
      instruction.run (fun callee => invoke (number callee)) state := by
  cases instruction
  all_goals rfl

theorem runAll_renumber (instructions : List Instruction) (state : Frame × World σ) :
    runAll invoke (instructions.map (renumber number)) state =
      runAll (fun callee => invoke (number callee)) instructions state := by
  induction instructions generalizing state with
  | nil => rfl
  | cons first rest ih => simp only [List.map_cons, runAll, run_renumber, ih]

theorem effect?_renumber (instruction : Instruction) (frame : Frame) :
    (instruction.renumber number).effect? frame =
      (instruction.effect? frame).map (Effect.renumber number) := by
  cases instruction
  case compute => rfl
  case slotAddress => rfl
  all_goals
    simp only [renumber, effect?, Option.bind_eq_bind, Option.map_bind, Function.comp_def,
      Option.map_some, Effect.renumber]

theorem traceAll_renumber (instructions : List Instruction) (state : Frame × World σ) :
    traceAll invoke (instructions.map (renumber number)) state =
      (traceAll (fun callee => invoke (number callee)) instructions state).map
        (Effect.renumber number) := by
  induction instructions generalizing state with
  | nil => rfl
  | cons first rest ih =>
      simp only [List.map_cons, traceAll, effect?_renumber, run_renumber, List.map_append]
      cases first.effect? state.1 with
      | none => cases first.run (fun callee => invoke (number callee)) state <;> simp [ih]
      | some effect => cases first.run (fun callee => invoke (number callee)) state <;> simp [ih]

end Instruction

theorem LoopHeader.run_renumber (header : LoopHeader) (state : Frame × World σ) :
    (header.renumber number).run invoke state =
      header.run (fun callee => invoke (number callee)) state := by
  have hinstructions := Instruction.runAll_renumber number invoke header.instructions state
  simp only [LoopHeader.run, LoopHeader.renumber, hinstructions]

/-- A loop makes the same passes, as far as its body does. -/
theorem LoopHeader.pass_renumber (header : LoopHeader)
    (body : Frame × World σ -> Option (Frame × World σ)) (outer : Frame)
    (state : List Scalar × World σ) :
    (header.renumber number).pass invoke body outer state =
      header.pass (fun callee => invoke (number callee)) body outer state := by
  have hrun := header.run_renumber number invoke
    (outer.bindAll header.parameters state.1, state.2)
  have hparameters : (header.renumber number).parameters = header.parameters := rfl
  simp only [pass, hparameters, hrun]
  rfl

theorem LoopHeader.iterate_renumber (header : LoopHeader)
    (body : Frame × World σ -> Option (Frame × World σ)) (state : Frame × World σ) :
    (header.renumber number).iterate invoke body state =
      header.iterate (fun callee => invoke (number callee)) body state := by
  have hpass : (header.renumber number).pass invoke body state.1 =
      header.pass (fun callee => invoke (number callee)) body state.1 :=
    funext (header.pass_renumber number invoke body state.1)
  simp only [iterate, hpass]
  rfl

theorem repeatTrace_map {α β : Type} (change : Effect -> Effect) (pass : α -> Option (α ⊕ β))
    (effects : α -> List Effect) (passes : Nat) (start : α) :
    repeatTrace pass (fun a => (effects a).map change) passes start =
      (repeatTrace pass effects passes start).map change := by
  induction passes generalizing start with
  | zero => rfl
  | succ passes ih =>
      simp only [repeatTrace, List.map_append]
      cases pass start with
      | none => simp
      | some outcome =>
          cases outcome with
          | inl next => simp [ih]
          | inr last => simp

theorem LoopHeader.trace_renumber (header : LoopHeader)
    (run : Frame × World σ -> Option (Frame × World σ)) (body : Frame × World σ -> List Effect)
    (state : Frame × World σ) :
    (header.renumber number).trace invoke run (fun state => (body state).map
        (Effect.renumber number)) state =
      (header.trace (fun callee => invoke (number callee)) run body state).map
        (Effect.renumber number) := by
  have hpass : (header.renumber number).pass invoke run state.1 =
      header.pass (fun callee => invoke (number callee)) run state.1 :=
    funext (header.pass_renumber number invoke run state.1)
  have heffects : (header.renumber number).passTrace invoke
        (fun state => (body state).map (Effect.renumber number)) state.1 =
      fun carried => (header.passTrace (fun callee => invoke (number callee)) body state.1
        carried).map (Effect.renumber number) := by
    funext carried
    have hrun := header.run_renumber number invoke
      (state.1.bindAll header.parameters carried.1, carried.2)
    have hquiet := Instruction.traceAll_renumber number invoke header.instructions
      (state.1.bindAll header.parameters carried.1, carried.2)
    have hparameters : (header.renumber number).parameters = header.parameters := rfl
    have hinstructions : (header.renumber number).instructions =
        header.instructions.map (Instruction.renumber number) := rfl
    simp only [passTrace, hparameters, hinstructions, hrun, hquiet, List.map_append]
    split <;> simp
  have hinitials : (header.renumber number).initials state.1 = header.initials state.1 := rfl
  simp only [trace, hinitials, hpass, heffects]
  cases header.initials state.1 with
  | none => rfl
  | some values => exact repeatTrace_map _ _ _ _ _

theorem Region.run_renumber (code : Code) (state : Frame × World σ) :
    (code.renumber number).run invoke state =
      code.run (fun callee => invoke (number callee)) state := by
  induction code generalizing state with
  | done => rfl
  | step first rest ih => simp only [renumber, run, Instruction.run_renumber, ih]
  | loop head body rest ihBody ihRest =>
      simp only [renumber, run, LoopHeader.iterate_renumber, ihBody, ihRest]

theorem Region.trace_renumber (code : Code) (state : Frame × World σ) :
    (code.renumber number).trace invoke state =
      (code.trace (fun callee => invoke (number callee)) state).map (Effect.renumber number) := by
  induction code generalizing state with
  | done => rfl
  | step first rest ih =>
      simp only [renumber, trace, Instruction.effect?_renumber, Instruction.run_renumber,
        List.map_append]
      cases first.run (fun callee => invoke (number callee)) state with
      | none => cases first.effect? state.1 <;> simp
      | some next => cases first.effect? state.1 <;> simp [ih]
  | loop head body rest ihBody ihRest =>
      have hbody : run invoke (body.renumber number) =
          run (fun callee => invoke (number callee)) body :=
        funext (run_renumber number invoke body)
      simp only [renumber, trace, hbody, ihBody, ihRest, LoopHeader.trace_renumber,
        LoopHeader.iterate_renumber, List.map_append]
      cases head.iterate (fun callee => invoke (number callee))
        (run (fun callee => invoke (number callee)) body) state with
      | none => rfl
      | some next => rfl

/-- Which functions are near makes no difference to a run. -/
theorem Procedure.run_renumber (procedure : Procedure) (near : List FuncId) :
    Procedure.run invoke { procedure.renumber number with near := near } =
      procedure.run fun callee => invoke (number callee) := by
  funext arguments world
  simp only [Procedure.run, renumber, Region.run_renumber]

/-- A procedure returns what it does where each of its calls reaches what the other number stands
for. -/
theorem Procedure.Returns.renumber {procedure : Procedure} {arguments results : List Scalar}
    {world after : World σ} {effects : List Effect}
    (h : procedure.Returns (fun callee => invoke (number callee)) arguments world results after
      effects) (near : List FuncId) :
    Procedure.Returns invoke { procedure.renumber number with near := near } arguments world
      results after (effects.map (Effect.renumber number)) where
  runs := by
    rw [Procedure.run_renumber]
    exact h.runs
  does := by
    rw [← h.does]
    exact Region.trace_renumber number invoke procedure.code _

end Provision
