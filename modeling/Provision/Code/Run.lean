import Provision.Code.Instruction

/-!
# Running code

Code runs on a frame, which holds its values and stack slots, and on a world, which holds memory
and the state of the host.  A run that has no result is stuck: it uses a value that does not fit,
calls a function that cannot be reached, or never ends.
-/

namespace Provision

/-! ## Worlds -/

structure World (σ : Type) where
  memory : Memory
  stack : Memory.Address
  host : σ
  deriving Repr

/-- What a function does: results and the world it leaves. -/
abbrev Behaviour (σ : Type) :=
  List Scalar -> World σ -> Option (List Scalar × World σ)

/-! ## Frames -/

structure Frame where
  values : List (ValueId × Scalar)
  slots : List Memory.Address
  deriving Repr

namespace Frame

/-- A frame that holds the arguments of a call. -/
def start (arguments : List Scalar) (slots : List Memory.Address) : Frame where
  values := (List.range arguments.length).zip arguments
  slots := slots

def value? (frame : Frame) (value : ValueId) : Option Scalar :=
  frame.values.lookup value

def bind (frame : Frame) (result : ValueId) (value : Scalar) : Frame :=
  { frame with values := (result, value) :: frame.values }

def bindAll (frame : Frame) (results : List ValueId) (values : List Scalar) : Frame :=
  { frame with values := results.zip values ++ frame.values }

end Frame

/-! ## Instructions -/

namespace Instruction

variable {σ : Type}

def run (invoke : FuncId -> Behaviour σ) : Instruction -> Frame × World σ ->
    Option (Frame × World σ)
  | compute result operation, (frame, world) => do
      let value ← operation.eval frame.value?
      some (frame.bind result value, world)
  | load result type address offset, (frame, world) => do
      let a ← (← frame.value? address).asAddress?
      some (frame.bind result (world.memory.load type (a + BitVec.ofInt 64 offset)), world)
  | store value address offset, (frame, world) => do
      let v ← frame.value? value
      let a ← (← frame.value? address).asAddress?
      some (frame, { world with memory := world.memory.store (a + BitVec.ofInt 64 offset) v })
  | slotAddress result slot, (frame, world) => do
      let a ← frame.slots[slot]?
      some (frame.bind result (.address a), world)
  | call results callee arguments, (frame, world) => do
      let values ← arguments.mapM frame.value?
      let (returned, world) ← invoke callee values world
      some (frame.bindAll results returned, world)

def runAll (invoke : FuncId -> Behaviour σ) : List Instruction -> Frame × World σ ->
    Option (Frame × World σ)
  | [], state => some state
  | first :: rest, state => do
      let state ← first.run invoke state
      runAll invoke rest state

end Instruction

/-! ## Loops -/

/-- Repeats a pass, which either starts the next one or leaves, at most `passes` times. -/
def repeatPass {α β : Type} (pass : α -> Option (α ⊕ β)) : (passes : Nat) -> α -> Option β
  | 0, _ => none
  | passes + 1, start =>
      match pass start with
      | none => none
      | some (.inl next) => repeatPass pass passes next
      | some (.inr result) => some result

/-- A loop whose counter has at most 64 bits and counts up from zero makes no more passes. -/
def maxPasses : Nat :=
  2 ^ 63

namespace LoopHeader

variable {σ : Type}

/-- Runs the header and tells whether the body is to run. -/
def run (invoke : FuncId -> Behaviour σ) (header : LoopHeader) (state : Frame × World σ) :
    Option (Bool × (Frame × World σ)) := do
  let state ← Instruction.runAll invoke header.instructions state
  let test ← (← state.1.value? header.test).asInt? .w8
  some (test != 0, state)

/-- The values that the loop carries into its first pass. -/
def initials (header : LoopHeader) (frame : Frame) : Option (List Scalar) :=
  header.carried.mapM fun carried => frame.value? carried.initial

/-- The values that the loop carries into the next pass. -/
def nexts (header : LoopHeader) (frame : Frame) : Option (List Scalar) :=
  header.carried.mapM fun carried => frame.value? carried.next

/-- One pass of a loop over the frame in which it started.  The next pass sees of this one what the
loop carries, and no other value. -/
def pass (invoke : FuncId -> Behaviour σ) (header : LoopHeader)
    (body : Frame × World σ -> Option (Frame × World σ)) (outer : Frame)
    (state : List Scalar × World σ) :
    Option ((List Scalar × World σ) ⊕ (Frame × World σ)) := do
  let (goesOn, inner) ← header.run invoke (outer.bindAll header.parameters state.1, state.2)
  if goesOn then
    let (frame, world) ← body inner
    let values ← header.nexts frame
    some (.inl (values, world))
  else
    some (.inr inner)

/-- Makes passes over a frame until one leaves. -/
def iterate (invoke : FuncId -> Behaviour σ) (header : LoopHeader)
    (body : Frame × World σ -> Option (Frame × World σ)) (state : Frame × World σ) :
    Option (Frame × World σ) := do
  let values ← header.initials state.1
  repeatPass (header.pass invoke body state.1) maxPasses (values, state.2)

end LoopHeader

/-! ## Code -/

namespace Region

variable {σ : Type}

def run (invoke : FuncId -> Behaviour σ) : Code -> Frame × World σ -> Option (Frame × World σ)
  | done, state => some state
  | step first rest, state => do
      let state ← first.run invoke state
      run invoke rest state
  | loop head body rest, state => do
      let state ← head.iterate invoke (fun state => run invoke body state) state
      run invoke rest state

end Region

namespace Procedure

variable {σ : Type}

/-- Runs a procedure; its stack slots are given back when it returns. -/
def run (invoke : FuncId -> Behaviour σ) (procedure : Procedure) : Behaviour σ :=
  fun arguments world => do
    let stack := StackSlot.bottom procedure.slots world.stack
    let slots := StackSlot.addresses procedure.slots stack
    let (frame, after) ←
      procedure.code.run invoke (Frame.start arguments slots, { world with stack := stack })
    let results ← procedure.results.mapM frame.value?
    some (results, { after with stack := world.stack })

end Procedure
end Provision
