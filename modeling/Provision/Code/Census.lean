import Provision.Code.Instruction

/-!
# How often values are used

A census goes through code from its end to its beginning.  A value is shared if it is used more
than once, or if it goes into a shared value that is the only result of its instruction.
-/

namespace Provision

structure Census where
  used : List ValueId
  shared : List ValueId
  deriving DecidableEq, Repr

namespace Census

def empty : Census where
  used := []
  shared := []

/-- Counts a use. -/
def count (value : ValueId) (census : Census) : Census :=
  if census.used.contains value then { census with shared := value :: census.shared }
  else { census with used := value :: census.used }

def countAll (values : List ValueId) (census : Census) : Census :=
  values.foldr count census

/-- Counts the uses in an instruction, all uses after it having been counted. -/
def visit (instruction : Instruction) (census : Census) : Census :=
  let census := census.countAll instruction.operands
  match instruction.results with
  | [result] =>
      if census.shared.contains result then census.countAll instruction.operands else census
  | _ => census

def visitAll (instructions : List Instruction) (census : Census) : Census :=
  instructions.foldr visit census

end Census

namespace Region

/-- Counts the uses in code, all uses after it having been counted. -/
def census : Code -> Census -> Census
  | done, counted => counted
  | step first rest, counted => (census rest counted).visit first
  | loop head body rest, counted =>
      let after := census rest counted
      let inner := census body (after.countAll (head.carried.map Carried.next))
      let top := (inner.count head.test).visitAll head.instructions
      top.countAll (head.carried.map Carried.initial)

end Region

namespace Procedure

/-- The census of a procedure, in which returning a value is using it. -/
def census (procedure : Procedure) : Census :=
  procedure.code.census (Census.empty.countAll procedure.results)

end Procedure
end Provision
