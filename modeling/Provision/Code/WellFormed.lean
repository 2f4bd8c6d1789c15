import Provision.Code.Instruction

/-!
# Well-formed code

Code is checked in order before it becomes a function's.  Using a value out of its scope ends the
check at once; operands that do not fit are found out at the end.  An integer constant of a type
that has none stops the check as misuse.
-/

namespace Provision

/-- What is known where an instruction stands: the values in scope with their types, and whether
every operand has fitted so far. -/
structure Scope where
  values : List (ValueId × MachineType)
  fits : Bool
  deriving DecidableEq, Repr

/-- Why a check ends early. -/
inductive Breach where
  | outOfScope (value : ValueId)
  | constantType (type : MachineType)
  deriving DecidableEq, Repr

namespace Scope

def contains (scope : Scope) (value : ValueId) : Bool :=
  (scope.values.lookup value).isSome

/-- Type of a value; of one that is out of scope any. -/
def typeOf (scope : Scope) (value : ValueId) : MachineType :=
  (scope.values.lookup value).getD default

/-- Adds results with their types. -/
def bind (scope : Scope) (results : List (ValueId × MachineType)) : Scope :=
  { scope with values := results ++ scope.values }

def require (scope : Scope) (condition : Bool) : Scope :=
  { scope with fits := scope.fits && condition }

/-- The first of the values that is out of scope. -/
def missing? (scope : Scope) (values : List ValueId) : Option ValueId :=
  values.find? fun value => !scope.contains value

end Scope

/-- What code is checked against. -/
structure Surroundings where
  slots : List StackSlot
  signatureOf? : FuncId -> Option MachineSignature

namespace Instruction

/-- Types of the results. -/
def resultTypes (env : Surroundings) (scope : Scope) : Instruction -> List (ValueId × MachineType)
  | compute result operation => [(result, operation.resultType scope.typeOf)]
  | load result type _ _ => [(result, type)]
  | store _ _ _ => []
  | slotAddress result _ => [(result, .i64)]
  | call results callee _ =>
      match env.signatureOf? callee with
      | some signature => results.zip signature.returns
      | none => []

/-- Whether the operands have the types that the instruction takes. -/
def fits (env : Surroundings) (scope : Scope) : Instruction -> Bool
  | compute _ operation => operation.fits scope.typeOf
  | load _ _ address _ => scope.typeOf address == .i64
  | store _ address _ => scope.typeOf address == .i64
  | slotAddress _ slot => slot < env.slots.length
  | call results callee arguments =>
      match env.signatureOf? callee with
      | some signature =>
          arguments.map scope.typeOf == signature.params
            && results.length == signature.returns.length
      | none => false

/-- The type of an integer constant that has none, if the instruction is such a constant. -/
def brokenConstant? : Instruction -> Option MachineType
  | compute _ (.constInt type _) => if Operation.isNarrow type then none else some type
  | _ => none

def check (env : Surroundings) (scope : Scope) (instruction : Instruction) :
    Except Breach Scope :=
  match scope.missing? instruction.operands with
  | some value => .error (.outOfScope value)
  | none =>
      match instruction.brokenConstant? with
      | some type => .error (.constantType type)
      | none =>
          .ok ((scope.require (instruction.fits env scope)).bind
            (instruction.resultTypes env scope))

def checkAll (env : Surroundings) : Scope -> List Instruction -> Except Breach Scope
  | scope, [] => .ok scope
  | scope, first :: rest =>
      match first.check env scope with
      | .error breach => .error breach
      | .ok scope => checkAll env scope rest

end Instruction

/-! ## Loops -/

namespace LoopHeader

/-- Enters a loop: the values that it carries come into scope. -/
def enter (header : LoopHeader) (scope : Scope) : Except Breach Scope :=
  match scope.missing? (header.carried.map Carried.initial) with
  | some value => .error (.outOfScope value)
  | none =>
      .ok ((scope.require
          (header.carried.all fun carried => scope.typeOf carried.initial == carried.type)).bind
        (header.carried.map fun carried => (carried.value, carried.type)))

/-- Checks the test at the end of the header. -/
def checkTest (header : LoopHeader) (scope : Scope) : Except Breach Scope :=
  match scope.missing? [header.test] with
  | some value => .error (.outOfScope value)
  | none => .ok (scope.require (scope.typeOf header.test == .i8))

/-- Checks at the end of the body what the loop carries into the next pass. -/
def repeats (header : LoopHeader) (scope : Scope) : Except Breach Scope :=
  match scope.missing? (header.carried.map Carried.next) with
  | some value => .error (.outOfScope value)
  | none =>
      .ok (scope.require
        (header.carried.all fun carried => scope.typeOf carried.next == carried.type))

end LoopHeader

/-! ## Code -/

namespace Region

/-- Checks code; what the body of a loop binds is out of scope after the loop. -/
def check (env : Surroundings) : Code -> Scope -> Except Breach Scope
  | done, scope => .ok scope
  | step first rest, scope => do
      let scope ← first.check env scope
      check env rest scope
  | loop head body rest, scope => do
      let entered ← head.enter scope
      let inner ← Instruction.checkAll env entered head.instructions
      let tested ← head.checkTest inner
      let after ← check env body tested
      let last ← head.repeats after
      check env rest { inner with fits := last.fits }

end Region

namespace Procedure

/-- The parameters with their numbers. -/
def parameters (procedure : Procedure) : List (ValueId × MachineType) :=
  (List.range procedure.signature.params.length).zip procedure.signature.params

def surroundings (procedure : Procedure)
    (signatureOf? : FuncId -> Option MachineSignature) : Surroundings where
  slots := procedure.slots
  signatureOf? := signatureOf?

/-- Checks a whole procedure: whether every operand and every result fits. -/
def check (procedure : Procedure) (signatureOf? : FuncId -> Option MachineSignature) :
    Except Breach Bool :=
  let start : Scope := { values := procedure.parameters, fits := true }
  match procedure.code.check (procedure.surroundings signatureOf?) start with
  | .error breach => .error breach
  | .ok scope =>
      match scope.missing? procedure.results with
      | some value => .error (.outOfScope value)
      | none =>
          .ok (scope.fits && procedure.results.map scope.typeOf == procedure.signature.returns)

end Procedure
end Provision
