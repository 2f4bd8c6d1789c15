import Provision.Code.Run

/-!
# Laws of running code

Running one piece of code after another is running both in turn, and a loop makes its passes one
after another.
-/

namespace Provision

/-! ## Instructions -/

namespace Instruction

variable {σ : Type}

theorem runAll_cons (invoke : FuncId -> Behaviour σ) (first : Instruction)
    (rest : List Instruction) (state : Frame × World σ) :
    runAll invoke (first :: rest) state =
      match first.run invoke state with
      | none => none
      | some next => runAll invoke rest next := by
  simp only [runAll]
  cases first.run invoke state with
  | none => rfl
  | some next => rfl

theorem runAll_append (invoke : FuncId -> Behaviour σ) (xs ys : List Instruction)
    (state : Frame × World σ) :
    runAll invoke (xs ++ ys) state =
      match runAll invoke xs state with
      | none => none
      | some next => runAll invoke ys next := by
  induction xs generalizing state with
  | nil => rfl
  | cons first rest ih =>
      rw [List.cons_append, runAll_cons, runAll_cons]
      cases first.run invoke state with
      | none => rfl
      | some next => exact ih next

end Instruction

/-! ## Repeated passes -/

theorem repeatPass_of_leaves {α β : Type} {pass : α -> Option (α ⊕ β)} {start : α} {result : β}
    (passes : Nat) (h : pass start = some (.inr result)) :
    repeatPass pass (passes + 1) start = some result := by
  simp only [repeatPass, h]

theorem repeatPass_of_goesOn {α β : Type} {pass : α -> Option (α ⊕ β)} {start next : α}
    (passes : Nat) (h : pass start = some (.inl next)) :
    repeatPass pass (passes + 1) start = repeatPass pass passes next := by
  simp only [repeatPass, h]

theorem repeatPass_of_stuck {α β : Type} {pass : α -> Option (α ⊕ β)} {start : α} (passes : Nat)
    (h : pass start = none) : repeatPass pass (passes + 1) start = none := by
  simp only [repeatPass, h]

/-! ## Loops -/

namespace LoopHeader

variable {σ : Type}

/-- A loop makes passes over the frame in which it starts. -/
theorem iterate_of_initials (invoke : FuncId -> Behaviour σ) (header : LoopHeader)
    (body : Frame × World σ -> Option (Frame × World σ)) {frame : Frame} {world : World σ}
    {values : List Scalar} (h : header.initials frame = some values) :
    header.iterate invoke body (frame, world) =
      repeatPass (header.pass invoke body frame) maxPasses (values, world) := by
  simp [iterate, h]

/-- A pass whose test is zero leaves with what the header has bound. -/
theorem pass_of_leaves (invoke : FuncId -> Behaviour σ) (header : LoopHeader)
    (body : Frame × World σ -> Option (Frame × World σ)) {outer : Frame} {values : List Scalar}
    {world : World σ} {inner : Frame × World σ}
    (h : header.run invoke (outer.bindAll header.parameters values, world) =
      some (false, inner)) :
    header.pass invoke body outer (values, world) = some (.inr inner) := by
  simp [pass, h]

/-- A pass whose test is not zero goes on with the next values. -/
theorem pass_of_goesOn (invoke : FuncId -> Behaviour σ) (header : LoopHeader)
    (body : Frame × World σ -> Option (Frame × World σ)) {outer frame : Frame}
    {values next : List Scalar} {world after : World σ} {inner : Frame × World σ}
    (hrun : header.run invoke (outer.bindAll header.parameters values, world) =
      some (true, inner))
    (hbody : body inner = some (frame, after)) (hnext : header.nexts frame = some next) :
    header.pass invoke body outer (values, world) = some (.inl (next, after)) := by
  simp [pass, hrun, hbody, hnext]

/-- A pass whose body gets stuck is stuck. -/
theorem pass_of_stuck (invoke : FuncId -> Behaviour σ) (header : LoopHeader)
    {body : Frame × World σ -> Option (Frame × World σ)} {outer : Frame} {values : List Scalar}
    {world : World σ} {inner : Frame × World σ}
    (hrun : header.run invoke (outer.bindAll header.parameters values, world) =
      some (true, inner)) (hbody : body inner = none) :
    header.pass invoke body outer (values, world) = none := by
  simp [pass, hrun, hbody]

end LoopHeader

/-! ## Code -/

namespace Region

variable {σ : Type}

theorem run_step (invoke : FuncId -> Behaviour σ) (first : Instruction) (rest : Code)
    (state : Frame × World σ) :
    run invoke (.step first rest) state =
      match first.run invoke state with
      | none => none
      | some next => run invoke rest next := by
  simp only [run]
  cases first.run invoke state with
  | none => rfl
  | some next => rfl

theorem run_loop (invoke : FuncId -> Behaviour σ) (head : LoopHeader) (body rest : Code)
    (state : Frame × World σ) :
    run invoke (.loop head body rest) state =
      match head.iterate invoke (run invoke body) state with
      | none => none
      | some next => run invoke rest next := by
  simp only [run]
  cases head.iterate invoke (run invoke body) state with
  | none => rfl
  | some next => rfl

theorem run_prepend (invoke : FuncId -> Behaviour σ) (steps : List Instruction) (rest : Code)
    (state : Frame × World σ) :
    run invoke (prepend steps rest) state =
      match Instruction.runAll invoke steps state with
      | none => none
      | some next => run invoke rest next := by
  induction steps generalizing state with
  | nil => rfl
  | cons first steps ih =>
      rw [prepend_cons, run_step, Instruction.runAll_cons]
      cases first.run invoke state with
      | none => rfl
      | some next => exact ih next

theorem run_append (invoke : FuncId -> Behaviour σ) (first second : Code)
    (state : Frame × World σ) :
    run invoke (first.append second) state =
      match run invoke first state with
      | none => none
      | some next => run invoke second next := by
  induction first generalizing state with
  | done => rfl
  | step instruction rest ih =>
      simp only [append]
      rw [run_step, run_step]
      cases instruction.run invoke state with
      | none => rfl
      | some next => exact ih next
  | loop head body rest _ ih =>
      simp only [append]
      rw [run_loop, run_loop]
      cases head.iterate invoke (run invoke body) state with
      | none => rfl
      | some next => exact ih next

end Region
end Provision
