import Provision.Code.Operation
import Provision.Code.Region
import Provision.Code.Stack
import Provision.Function
import Provision.Lowering

/-!
# Emitted code

Instructions compute values, each under a number of its own, and read and write memory and the
stack.  A loop runs its header, leaves if the test value is zero, else runs its body and starts
over.  What changes from pass to pass are the values that the loop carries.
-/

namespace Provision

abbrev SlotId :=
  Nat

inductive Instruction where
  | compute (result : ValueId) (operation : Operation)
  | load (result : ValueId) (type : MachineType) (address : ValueId) (offset : Int)
  | store (value : ValueId) (address : ValueId) (offset : Int)
  | slotAddress (result : ValueId) (slot : SlotId)
  | call (results : List ValueId) (callee : FuncId) (arguments : List ValueId)
  deriving DecidableEq, Repr

/-- A value that a loop carries.  It is the initial value in the first pass; in each pass after it,
it is what the next value was at the end of the body. -/
structure Carried where
  value : ValueId
  type : MachineType
  initial : ValueId
  next : ValueId
  deriving DecidableEq, Repr

structure LoopHeader where
  carried : List Carried
  instructions : List Instruction
  test : ValueId
  deriving DecidableEq, Repr

abbrev Code :=
  Region Instruction LoopHeader

/-- Code of one function.  Its parameters are the values with the first numbers; it ends by
returning the values `results`.  A call of a function in `near` says only how far that is. -/
structure Procedure where
  signature : MachineSignature
  slots : List StackSlot
  code : Code
  results : List ValueId
  near : List FuncId
  deriving DecidableEq, Repr

namespace Instruction

def results : Instruction -> List ValueId
  | compute result _ => [result]
  | load result _ _ _ => [result]
  | store _ _ _ => []
  | slotAddress result _ => [result]
  | call results _ _ => results

def operands : Instruction -> List ValueId
  | compute _ operation => operation.operands
  | load _ _ address _ => [address]
  | store value address _ => [value, address]
  | slotAddress _ _ => []
  | call _ _ arguments => arguments

/-- The instruction on other operands. -/
def rename (f : ValueId -> ValueId) : Instruction -> Instruction
  | compute result operation => compute result (operation.rename f)
  | load result type address offset => load result type (f address) offset
  | store value address offset => store (f value) (f address) offset
  | slotAddress result slot => slotAddress result slot
  | call results callee arguments => call results callee (arguments.map f)

theorem operands_rename (f : ValueId -> ValueId) (instruction : Instruction) :
    (instruction.rename f).operands = instruction.operands.map f := by
  cases instruction
  case compute result operation => exact operation.operands_rename f
  all_goals rfl

end Instruction

/-- A call as its target has to be bound: near, if it says only how far the target is. -/
structure Call where
  callee : FuncId
  isNear : Bool
  deriving DecidableEq, Repr

namespace LoopHeader

/-- The values that a loop carries. -/
def parameters (header : LoopHeader) : List ValueId :=
  header.carried.map Carried.value

end LoopHeader

namespace Region

/-- Every instruction of emitted code, loop headers and bodies included. -/
def instructions : Code -> List Instruction
  | done => []
  | step first rest => first :: rest.instructions
  | loop head body rest => head.instructions ++ body.instructions ++ rest.instructions

/-- Everything that loops of emitted code carry. -/
def carried : Code -> List Carried
  | done => []
  | step _ rest => rest.carried
  | loop head body rest => head.carried ++ body.carried ++ rest.carried

/-- Functions that emitted code calls. -/
def callees (code : Code) : List FuncId :=
  code.instructions.filterMap fun
    | .call _ callee _ => some callee
    | _ => none

end Region

namespace Procedure

/-- The calls that a procedure makes. -/
def calls (procedure : Procedure) : List Call :=
  procedure.code.callees.map fun callee =>
    { callee := callee, isNear := procedure.near.contains callee }

end Procedure
end Provision
