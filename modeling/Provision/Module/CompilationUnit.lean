import Provision.Code.Fusion
import Provision.Code.WellFormed
import Provision.Event
import Provision.Module.Basic
import Provision.Script.Emission
import Provision.TimeLayout

/-!
# Compilation units

A compilation unit is a module in the making, under a name and for a target.  It declares functions
that are defined elsewhere and defines functions by their bodies, and keeps a log of both.
-/

namespace Provision

structure CompilationUnit where
  module : Module
  name : String
  target : Target
  timeLayout : TimeLayout
  log : Log

namespace CompilationUnit

/-- Type of pointers on the machine that runs the code. -/
def hostPointer : MachineType :=
  .i64

/-- A unit over a module, with the time layout of the C library. -/
def ofModule (module : Module) (name : String) (target : Target) (log : Log) :
    CompilationUnit where
  module := module
  name := name
  target := target
  timeLayout := TimeLayout.ofPointerBits hostPointer.bits
  log := log

def withTimeLayout (unit : CompilationUnit) (layout : TimeLayout) : CompilationUnit :=
  { unit with timeLayout := layout }

/-- Declares a data object in the module, unless its name is taken. -/
def declareData (unit : CompilationUnit) (name : String) : CompilationUnit :=
  { unit with module := unit.module.declareData name }

/-- A unit under another name and for another target over the same module. -/
def rewrap (unit : CompilationUnit) (name : String) (target : Target) : CompilationUnit :=
  ofModule unit.module name target unit.log

def lowering (unit : CompilationUnit) : Lowering :=
  Lowering.ofTarget unit.target hostPointer

def signature (unit : CompilationUnit) (sig : Signature) : MachineSignature :=
  unit.lowering.signature sig

def lookup? (unit : CompilationUnit) (name : String) : Option FuncId :=
  unit.module.lookup? name

def record (event : Event) : Action CompilationUnit Unit :=
  modify fun unit => { unit with log := unit.log ++ [event] }

def onModule {α : Type} (action : Action Module α) : Action CompilationUnit α :=
  Action.onPart CompilationUnit.module (fun module unit => { unit with module := module }) action

/-! ## Imports -/

/-- Declares a function that is defined elsewhere.  A function that is known by this name already
stays as it is. -/
def declareImport (name : String) (sig : Signature) : Action CompilationUnit FuncId := do
  let unit ← get
  match unit.lookup? name with
  | some id => pure id
  | none => do
      let id ← onModule (Module.declare name .imported (unit.signature sig))
      record (.declared name)
      pure id

/-! ## Definitions -/

/-- What a body of the given signature is emitted for. -/
def site (unit : CompilationUnit) (sig : Signature) : Site where
  lowering := unit.lowering
  signature := unit.signature sig
  signatureOf? := unit.module.signature?
  isFinal := unit.module.isFinal

/-- What a body tells while it is emitted. -/
def notes (unit : CompilationUnit) (sig : Signature) (body : Body) : List Note :=
  (body.build (unit.site sig)).2

/-- The procedure of a body that can be emitted and is well-formed, as the machine runs it. -/
def procedure (unit : CompilationUnit) (name : String) (sig : Signature) (body : Body) :
    Except Stop Procedure :=
  match (body.build (unit.site sig)).1 with
  | .error stop => .error stop
  | .ok procedure =>
      match procedure.check unit.module.signature? with
      | .ok true => .ok procedure.fuse
      | .ok false => .error (.fault (.rejected name))
      | .error (.outOfScope _) => .error (.fault (.rejected name))
      | .error (.constantType _) => .error (.misuse .constantType)

/-- Defines a function.  Its name is declared only after its body has been emitted and checked. -/
def define (name : String) (sig : Signature) (linkage : Linkage) (body : Body) :
    Action CompilationUnit FuncId := do
  let unit ← get
  match unit.procedure name sig body with
  | .error stop => throw stop
  | .ok procedure => do
      let id ← onModule (Module.declare name linkage (unit.signature sig))
      onModule (Module.define name id procedure)
      record (.defined name linkage)
      pure id

end CompilationUnit
end Provision
