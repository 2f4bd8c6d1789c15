import Provision.Code.Laws
import Provision.Executable
import Provision.Memory.Laws

/-!
# Traces

What a run does to memory and which functions it calls, one thing after another.  A trace is that
of the code itself: of a function that is called it holds the call, and what happens in there is
not part of it.
-/

namespace Provision

/-! ## Effects -/

inductive Effect where
  | load (a : Memory.Address) (count : Nat)
  | store (a : Memory.Address) (count : Nat)
  | call (callee : FuncId) (arguments : List Scalar)
  deriving DecidableEq, Repr

namespace Instruction

variable {σ : Type}

/-- What an instruction does on a frame, if that holds its operands. -/
def effect? (frame : Frame) : Instruction -> Option Effect
  | compute _ _ => none
  | load _ type address offset => do
      let a ← (← frame.value? address).asAddress?
      some (.load (a + BitVec.ofInt 64 offset) type.bytes)
  | store value address offset => do
      let v ← frame.value? value
      let a ← (← frame.value? address).asAddress?
      some (.store (a + BitVec.ofInt 64 offset) v.type.bytes)
  | slotAddress _ _ => none
  | call _ callee arguments => do
      let values ← arguments.mapM frame.value?
      some (.call callee values)

def traceAll (invoke : FuncId -> Behaviour σ) : List Instruction -> Frame × World σ -> List Effect
  | [], _ => []
  | first :: rest, state =>
      (first.effect? state.1).toList ++
        match first.run invoke state with
        | none => []
        | some next => traceAll invoke rest next

end Instruction

/-! ## Loops -/

/-- What the passes do that `repeatPass` makes. -/
def repeatTrace {α β : Type} (pass : α -> Option (α ⊕ β)) (effects : α -> List Effect) :
    (passes : Nat) -> α -> List Effect
  | 0, _ => []
  | passes + 1, start =>
      effects start ++
        match pass start with
        | some (.inl next) => repeatTrace pass effects passes next
        | _ => []

namespace LoopHeader

variable {σ : Type}

/-- What one pass does over the frame in which the loop started: what the header does, and then
the body if it is run. -/
def passTrace (invoke : FuncId -> Behaviour σ) (header : LoopHeader)
    (body : Frame × World σ -> List Effect) (outer : Frame) (state : List Scalar × World σ) :
    List Effect :=
  Instruction.traceAll invoke header.instructions
      (outer.bindAll header.parameters state.1, state.2) ++
    match header.run invoke (outer.bindAll header.parameters state.1, state.2) with
    | some (true, inner) => body inner
    | _ => []

def trace (invoke : FuncId -> Behaviour σ) (header : LoopHeader)
    (run : Frame × World σ -> Option (Frame × World σ)) (body : Frame × World σ -> List Effect)
    (state : Frame × World σ) : List Effect :=
  match header.initials state.1 with
  | none => []
  | some values =>
      repeatTrace (header.pass invoke run state.1) (header.passTrace invoke body state.1) maxPasses
        (values, state.2)

end LoopHeader

/-! ## Code -/

def Region.trace {σ : Type} (invoke : FuncId -> Behaviour σ) : Code -> Frame × World σ ->
    List Effect
  | done, _ => []
  | step first rest, state =>
      (first.effect? state.1).toList ++
        match first.run invoke state with
        | none => []
        | some next => trace invoke rest next
  | loop head body rest, state =>
      head.trace invoke (run invoke body) (fun state => trace invoke body state) state ++
        match head.iterate invoke (run invoke body) state with
        | none => []
        | some next => trace invoke rest next

def Procedure.trace {σ : Type} (invoke : FuncId -> Behaviour σ) (procedure : Procedure)
    (arguments : List Scalar) (world : World σ) : List Effect :=
  let stack := StackSlot.bottom procedure.slots world.stack
  let slots := StackSlot.addresses procedure.slots stack
  procedure.code.trace invoke (Frame.start arguments slots, { world with stack := stack })

namespace Executable

variable {σ : Type} {program : Executable σ} {id : FuncId} {procedure : Procedure}

/-- The code that a program has for a function. -/
def procedure? (program : Executable σ) (id : FuncId) : Option Procedure :=
  (program.module.declaration? id).bind Declaration.code

/-- What a function of a program does itself when it is invoked. -/
def trace (program : Executable σ) : (depth : Nat) -> FuncId -> List Scalar -> World σ ->
    List Effect
  | 0, _, _, _ => []
  | depth + 1, id, arguments, world =>
      match program.procedure? id with
      | none => []
      | some procedure => procedure.trace (program.invoke depth) arguments world

theorem invoke_of_procedure (h : program.procedure? id = some procedure) (depth : Nat) :
    program.invoke (depth + 1) id = procedure.run (program.invoke depth) := by
  rcases Option.bind_eq_some_iff.mp h with ⟨declaration, hdeclaration, hcode⟩
  simp only [invoke, hdeclaration, hcode]

/-- An import does what its name is bound to. -/
theorem invoke_of_binding {declaration : Declaration} {function : HostFunction σ}
    (hdeclaration : program.module.declaration? id = some declaration)
    (hcode : declaration.code = none) (hbinding : program.binding? declaration.name = some function)
    (depth : Nat) :
    program.invoke (depth + 1) id =
      Convention.returning declaration.signature.returns function.run := by
  simp only [invoke, hdeclaration, hcode, hbinding]

theorem trace_of_procedure (h : program.procedure? id = some procedure) (depth : Nat)
    (arguments : List Scalar) (world : World σ) :
    program.trace (depth + 1) id arguments world =
      procedure.trace (program.invoke depth) arguments world := by
  simp only [trace, h]

end Executable

/-! ## Laws -/

section Laws

variable {σ : Type} (invoke : FuncId -> Behaviour σ)

theorem Instruction.traceAll_append (xs ys : List Instruction) (state : Frame × World σ) :
    traceAll invoke (xs ++ ys) state =
      traceAll invoke xs state ++
        match runAll invoke xs state with
        | none => []
        | some next => traceAll invoke ys next := by
  induction xs generalizing state with
  | nil => rfl
  | cons first rest ih =>
      rw [List.cons_append, runAll_cons]
      simp only [traceAll]
      cases first.run invoke state with
      | none => simp
      | some next => simp only [ih, List.append_assoc]

theorem Region.trace_prepend (steps : List Instruction) (rest : Code) (state : Frame × World σ) :
    trace invoke (prepend steps rest) state =
      Instruction.traceAll invoke steps state ++
        match Instruction.runAll invoke steps state with
        | none => []
        | some next => trace invoke rest next := by
  induction steps generalizing state with
  | nil => rfl
  | cons first steps ih =>
      rw [prepend_cons, Instruction.runAll_cons]
      simp only [trace, Instruction.traceAll]
      cases first.run invoke state with
      | none => simp
      | some next => simp only [ih, List.append_assoc]

theorem Region.trace_ofSteps (steps : List Instruction) (state : Frame × World σ) :
    trace invoke (.ofSteps steps) state = Instruction.traceAll invoke steps state := by
  rw [ofSteps, trace_prepend]
  cases Instruction.runAll invoke steps state with
  | none => simp
  | some next => simp [trace]

/-- Passes that go on from each of some states to the next and leave from the last one do what each
of them does, in turn. -/
theorem repeatTrace_of_states {α β : Type} {pass : α -> Option (α ⊕ β)}
    {effects : α -> List Effect} (states : Nat -> α) {result : β} {count passes : Nat}
    (hpasses : count < passes)
    (hgoes : forall i, i < count -> pass (states i) = some (.inl (states (i + 1))))
    (hleaves : pass (states count) = some (.inr result)) :
    repeatTrace pass effects passes (states 0) =
      (List.range count).flatMap (fun i => effects (states i)) ++ effects (states count) := by
  induction count generalizing states passes with
  | zero =>
      cases passes with
      | zero => cases hpasses
      | succ passes => simp [repeatTrace, hleaves]
  | succ count ih =>
      cases passes with
      | zero => cases hpasses
      | succ passes =>
          have hlater := ih (fun i => states (i + 1)) (Nat.lt_of_succ_lt_succ hpasses)
            (fun i hi => hgoes (i + 1) (Nat.succ_lt_succ hi)) hleaves
          rw [repeatTrace, hgoes 0 (Nat.succ_pos count), List.range_succ_eq_map]
          simp only [hlater, List.flatMap_cons, List.flatMap_map, List.append_assoc]

end Laws

/-! ## What a run changes -/

/-- An effect changes no byte at an address. -/
def Effect.Spares (b : Memory.Address) : Effect -> Prop
  | load _ _ => True
  | store a count => ¬ Memory.Within a count b
  | call _ _ => False

section Sparing

variable {σ : Type} {invoke : FuncId -> Behaviour σ} {b : Memory.Address}
  {before after : Frame × World σ}

theorem Instruction.byteAt_of_spares {instruction : Instruction}
    (hrun : instruction.run invoke before = some after)
    (hspares : forall effect, effect ∈ (instruction.effect? before.1).toList -> effect.Spares b) :
    after.2.memory.byteAt b = before.2.memory.byteAt b := by
  rcases before with ⟨frame, world⟩
  cases instruction with
  | compute result operation =>
      simp only [run, Option.bind_eq_bind, Option.bind_eq_some_iff, Option.some.injEq] at hrun
      rcases hrun with ⟨value, _, rfl⟩
      rfl
  | load result type address offset =>
      simp only [run, Option.bind_eq_bind, Option.bind_eq_some_iff, Option.some.injEq] at hrun
      rcases hrun with ⟨_, _, _, _, rfl⟩
      rfl
  | store value address offset =>
      simp only [run, Option.bind_eq_bind, Option.bind_eq_some_iff, Option.some.injEq] at hrun
      rcases hrun with ⟨v, hvalue, x, hx, a, ha, rfl⟩
      have hstore := hspares (.store (a + BitVec.ofInt 64 offset) v.type.bytes)
        (by simp [effect?, hvalue, hx, ha])
      exact Memory.byteAt_write_of_not_within world.memory _ _ _ b hstore
  | slotAddress result slot =>
      simp only [run, Option.bind_eq_bind, Option.bind_eq_some_iff, Option.some.injEq] at hrun
      rcases hrun with ⟨a, _, rfl⟩
      rfl
  | call results callee arguments =>
      simp only [run, Option.bind_eq_bind, Option.bind_eq_some_iff] at hrun
      rcases hrun with ⟨values, hvalues, _⟩
      exact (hspares (.call callee values) (by simp [effect?, hvalues])).elim

theorem Instruction.byteAt_of_spares_all {instructions : List Instruction}
    (hrun : runAll invoke instructions before = some after)
    (hspares : forall effect, effect ∈ traceAll invoke instructions before -> effect.Spares b) :
    after.2.memory.byteAt b = before.2.memory.byteAt b := by
  induction instructions generalizing before with
  | nil =>
      cases hrun
      rfl
  | cons first rest ih =>
      rw [runAll_cons] at hrun
      cases hfirst : first.run invoke before with
      | none =>
          rw [hfirst] at hrun
          cases hrun
      | some next =>
          rw [hfirst] at hrun
          simp only [traceAll, hfirst, List.mem_append] at hspares
          rw [ih hrun fun effect he => hspares effect (.inr he)]
          exact byteAt_of_spares hfirst fun effect he => hspares effect (.inl he)

/-- What no pass changes is in the end what it was in the beginning. -/
theorem view_of_repeatPass {α β γ : Type} {pass : α -> Option (α ⊕ β)}
    {effects : α -> List Effect} {harmless : Effect -> Prop} (view : α -> γ) (viewEnd : β -> γ)
    (hgoes : forall a next, pass a = some (.inl next) ->
      (forall effect, effect ∈ effects a -> harmless effect) -> view next = view a)
    (hleaves : forall a last, pass a = some (.inr last) ->
      (forall effect, effect ∈ effects a -> harmless effect) -> viewEnd last = view a)
    {passes : Nat} {start : α} {last : β} (hruns : repeatPass pass passes start = some last)
    (hharmless : forall effect, effect ∈ repeatTrace pass effects passes start ->
      harmless effect) :
    viewEnd last = view start := by
  induction passes generalizing start with
  | zero => cases hruns
  | succ passes ih =>
      simp only [repeatTrace, List.mem_append] at hharmless
      cases hpass : pass start with
      | none =>
          simp only [repeatPass, hpass] at hruns
          cases hruns
      | some outcome =>
          cases outcome with
          | inl next =>
              rw [repeatPass_of_goesOn _ hpass] at hruns
              rw [hpass] at hharmless
              rw [ih hruns fun effect he => hharmless effect (.inr he)]
              exact hgoes start next hpass fun effect he => hharmless effect (.inl he)
          | inr result =>
              rw [repeatPass_of_leaves _ hpass] at hruns
              cases hruns
              exact hleaves start last hpass fun effect he => hharmless effect (.inl he)

namespace LoopHeader

variable {header : LoopHeader}

theorem byteAt_of_run {goesOn : Bool} (hrun : header.run invoke before = some (goesOn, after))
    (hspares : forall effect, effect ∈ Instruction.traceAll invoke header.instructions before ->
      effect.Spares b) :
    after.2.memory.byteAt b = before.2.memory.byteAt b := by
  simp only [run, Option.bind_eq_bind, Option.bind_eq_some_iff, Option.some.injEq] at hrun
  rcases hrun with ⟨state, hall, _, _, _, _, heq⟩
  cases heq
  exact Instruction.byteAt_of_spares_all hall hspares

/-- A loop spares what its body spares. -/
theorem byteAt_of_iterate {body : Code}
    (hbody : forall before after : Frame × World σ, body.run invoke before = some after ->
      (forall effect, effect ∈ body.trace invoke before -> effect.Spares b) ->
        after.2.memory.byteAt b = before.2.memory.byteAt b)
    (hruns : header.iterate invoke (body.run invoke) before = some after)
    (hspares : forall effect,
      effect ∈ header.trace invoke (body.run invoke) (body.trace invoke) before ->
        effect.Spares b) :
    after.2.memory.byteAt b = before.2.memory.byteAt b := by
  rcases before with ⟨frame, world⟩
  simp only [iterate, Option.bind_eq_bind, Option.bind_eq_some_iff] at hruns
  rcases hruns with ⟨values, hinitials, hruns⟩
  simp only [trace, hinitials] at hspares
  refine view_of_repeatPass (fun state : List Scalar × World σ => state.2.memory.byteAt b)
    (fun state : Frame × World σ => state.2.memory.byteAt b) ?_ ?_ hruns hspares
  · intro state next hpass heffects
    simp only [pass, Option.bind_eq_bind, Option.bind_eq_some_iff] at hpass
    rcases hpass with ⟨⟨goesOn, inner⟩, hrun, hpass⟩
    cases goesOn with
    | false => simp at hpass
    | true =>
        simp only [if_true, Option.bind_eq_some_iff, Option.some.injEq] at hpass
        rcases hpass with ⟨last, hlast, _, _, heq⟩
        cases heq
        simp only [passTrace, hrun, List.mem_append] at heffects
        rw [hbody _ _ hlast fun effect he => heffects effect (.inr he)]
        exact byteAt_of_run hrun fun effect he => heffects effect (.inl he)
  · intro state last hpass heffects
    simp only [pass, Option.bind_eq_bind, Option.bind_eq_some_iff] at hpass
    rcases hpass with ⟨⟨goesOn, inner⟩, hrun, hpass⟩
    cases goesOn with
    | true => simp [Option.bind_eq_some_iff] at hpass
    | false =>
        simp only [Bool.false_eq_true, if_false, Option.some.injEq, Sum.inr.injEq] at hpass
        cases hpass
        simp only [passTrace, List.mem_append] at heffects
        exact byteAt_of_run hrun fun effect he => heffects effect (.inl he)

end LoopHeader

/-- A run changes no byte that its trace spares. -/
theorem Region.byteAt_of_spares {code : Code} (hrun : code.run invoke before = some after)
    (hspares : forall effect, effect ∈ code.trace invoke before -> effect.Spares b) :
    after.2.memory.byteAt b = before.2.memory.byteAt b := by
  induction code generalizing before after with
  | done =>
      cases hrun
      rfl
  | step first rest ih =>
      rw [run_step] at hrun
      cases hfirst : first.run invoke before with
      | none =>
          rw [hfirst] at hrun
          cases hrun
      | some next =>
          rw [hfirst] at hrun
          simp only [trace, hfirst, List.mem_append] at hspares
          rw [ih hrun fun effect he => hspares effect (.inr he)]
          exact Instruction.byteAt_of_spares hfirst fun effect he => hspares effect (.inl he)
  | loop head body rest ihBody ihRest =>
      rw [run_loop] at hrun
      cases hloop : head.iterate invoke (run invoke body) before with
      | none =>
          rw [hloop] at hrun
          cases hrun
      | some next =>
          rw [hloop] at hrun
          simp only [trace, hloop, List.mem_append] at hspares
          rw [ihRest hrun fun effect he => hspares effect (.inr he)]
          exact LoopHeader.byteAt_of_iterate (fun _ _ => ihBody) hloop
            fun effect he => hspares effect (.inl he)

end Sparing

/-- A function of a program changes no byte that its trace spares. -/
theorem Executable.byteAt_of_spares {σ : Type} {program : Executable σ} {id : FuncId}
    {procedure : Procedure} (hprocedure : program.procedure? id = some procedure) {depth : Nat}
    {arguments results : List Scalar} {world after : World σ} {b : Memory.Address}
    (hrun : program.invoke (depth + 1) id arguments world = some (results, after))
    (hspares : forall effect, effect ∈ program.trace (depth + 1) id arguments world ->
      effect.Spares b) :
    after.memory.byteAt b = world.memory.byteAt b := by
  rw [invoke_of_procedure hprocedure] at hrun
  rw [trace_of_procedure hprocedure] at hspares
  simp only [Procedure.run, Option.bind_eq_bind, Option.bind_eq_some_iff,
    Option.some.injEq, Prod.mk.injEq] at hrun
  rcases hrun with ⟨⟨frame, inner⟩, hcode, _, _, _, rfl⟩
  exact Region.byteAt_of_spares hcode hspares

end Provision
