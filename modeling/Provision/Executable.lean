import Provision.Host.Library
import Provision.Module.Basic

/-!
# Executables

A module together with the host functions that its imports are bound to.  Its functions can be
looked up and run.
-/

namespace Provision

structure Executable (σ : Type) where
  module : Module
  name : String
  table : HostTable (HostFunction σ)

/-- Why there is no function to give. -/
inductive Missing where
  | noCode (name : String)
  | misuse (misuse : Misuse)
  deriving DecidableEq, Repr

namespace Missing

def message? : Missing -> Option String
  | noCode name =>
      some ("no code for function '" ++ name
        ++ "': not declared, or imported rather than defined")
  | misuse _ => none

end Missing

namespace Executable

variable {σ : Type}

/-! ## Looking up -/

/-- The function declared under a name. -/
def lookup (program : Executable σ) (name : String) : Except Missing FuncId :=
  match program.module.lookup? name with
  | some id => .ok id
  | none => .error (.noCode name)

/-- The code of a function.  An import has none here, and asking for that of a function that was
declared but never defined is misuse. -/
def code (program : Executable σ) (id : FuncId) : Except Missing Procedure :=
  match program.module.declaration? id with
  | none => .error (.misuse (.unknownFunction id))
  | some declaration =>
      if !declaration.linkage.isDefinable then .error (.noCode declaration.name)
      else
        match declaration.code with
        | some procedure => .ok procedure
        | none => .error (.misuse .missingCode)

/-! ## Binding -/

/-- What a name stands for outside the module: the table comes before the process. -/
def binding? (program : Executable σ) (name : String) : Option (HostFunction σ) :=
  match program.table.find? name with
  | some function => some function
  | none => Host.process? name

/-- Whether there can be a name in the process; a null character ends a name there. -/
def isNameable (name : String) : Bool :=
  !name.toList.contains (Char.ofNat 0)

/-- Whether a call reaches a function.  Code of the module is near; a preemptible function that
nothing defines is nowhere, which only a call that holds a whole address can express. -/
def reaches (program : Executable σ) (call : Call) : Bool :=
  match program.module.declaration? call.callee with
  | none => false
  | some declaration =>
      if declaration.code.isSome then true
      else
        match program.binding? declaration.name with
        | some function => function.isNear || !call.isNear
        | none =>
            declaration.linkage == .preemptible && !call.isNear && isNameable declaration.name

/-- The calls in code of the module. -/
def calls (program : Executable σ) : List Call :=
  program.module.functions.flatMap fun declaration =>
    match declaration.code with
    | some procedure => procedure.calls
    | none => []

/-- A call of a function from outside the module, as its linkage asks for. -/
def entry (program : Executable σ) (id : FuncId) : Call where
  callee := id
  isNear := program.module.isFinal id

/-! ## Running -/

/-- Runs a function; calls nest at most `depth` deep. -/
def invoke (program : Executable σ) : (depth : Nat) -> FuncId -> Behaviour σ
  | 0, _ => Host.unknown
  | depth + 1, id =>
      match program.module.declaration? id with
      | none => Host.unknown
      | some declaration =>
          match declaration.code with
          | some procedure => procedure.run (program.invoke depth)
          | none =>
              match program.binding? declaration.name with
              | some function =>
                  Convention.returning declaration.signature.returns function.run
              | none => Host.unknown

/-- How deep calls nest before the stack of the machine is full. -/
def maxDepth : Nat :=
  100000

def call (program : Executable σ) (id : FuncId) : Behaviour σ :=
  program.invoke maxDepth id

end Executable
end Provision
