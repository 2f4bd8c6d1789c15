import Provision.DataType
import Provision.Function

/-!
# Faults

Why a function cannot be provided, and in which ways a caller can misuse the interface.
-/

namespace Provision

/-! ## Conflicts with what a module holds -/

inductive Conflict where
  | incompatibleDeclaration
  | duplicateDefinition
  | importDefinition
  | incompatibleSignature
  deriving DecidableEq, Repr

namespace Conflict

/-- Wording of a conflict over a name; signatures are compared without one. -/
def message? (name : String) : Conflict -> Option String
  | incompatibleDeclaration => some ("Incompatible declaration of identifier: " ++ name)
  | duplicateDefinition => some ("Duplicate definition of identifier: " ++ name)
  | importDefinition => some ("Invalid to define identifier declared as an import: " ++ name)
  | incompatibleSignature => none

end Conflict

/-! ## Faults of provisioning -/

inductive Fault where
  | unsupported (operation : String) (type : DataType)
  | noResult (callee : FuncId)
  | declaration (name : String) (conflict : Conflict)
  | rejected (name : String)
  | unresolved (name : String) (cause : Fault)
  deriving DecidableEq, Repr

namespace Fault

/-- Wording of a fault; a rejected body and what follows from it have none. -/
def message? : Fault -> Option String
  | unsupported operation type =>
      some (operation ++ " does not support element type " ++ type.text)
  | noResult callee => some ("call to '" ++ callee.text ++ "' produced no value")
  | declaration name conflict =>
      (conflict.message? name).map fun text => "module error for '" ++ name ++ "': " ++ text
  | rejected _ => none
  | unresolved name cause =>
      cause.message?.map fun text => "could not resolve function '" ++ name ++ "': " ++ text

/-- Wording of a fault as a session reports it. -/
def report? (fault : Fault) : Option String :=
  fault.message?.map fun text => "provisioning failed: " ++ text

end Fault

/-! ## Misuse -/

/-- What a caller must never do; there is no way to go on after it. -/
inductive Misuse where
  | noSuchParameter (index : Nat)
  | unboundName (name : String)
  | unknownFunction (id : FuncId)
  | unbound (id : FuncId)
  | wrongLocalType (name : String)
  | constantType
  | missingCode
  | symbolTaken (name : String)
  | frameTooLarge
  deriving DecidableEq, Repr

/-- Why an action stops. -/
inductive Stop where
  | fault (fault : Fault)
  | misuse (misuse : Misuse)
  deriving DecidableEq, Repr

/-- An action on a state that may stop; the state it has reached by then stays. -/
abbrev Action (σ : Type) :=
  EStateM Stop σ

namespace Action

def fault {σ α : Type} (fault : Fault) : Action σ α :=
  throw (.fault fault)

def misuse {σ α : Type} (misuse : Misuse) : Action σ α :=
  throw (.misuse misuse)

/-- Runs an action on a part of the state. -/
def onPart {σ τ α : Type} (get : σ -> τ) (set : τ -> σ -> σ) (action : Action τ α) : Action σ α :=
  fun s =>
    match action (get s) with
    | .ok a part => .ok a (set part s)
    | .error stop part => .error stop (set part s)

/-- Runs an action and turns a fault of it into another one. -/
def mapFault {σ α : Type} (wrap : Fault -> Fault) (action : Action σ α) : Action σ α :=
  fun s =>
    match action s with
    | .error (.fault fault) s => .error (.fault (wrap fault)) s
    | result => result

/-! ## Laws -/

variable {σ τ α β : Type}

theorem run_get (s : σ) : (get : Action σ σ) s = .ok s s := rfl

theorem run_modify (change : σ -> σ) (s : σ) :
    (modify change : Action σ Unit) s = .ok ⟨⟩ (change s) := rfl

theorem run_bind (action : Action σ α) (next : α -> Action σ β) (s : σ) :
    (action >>= next) s =
      match action s with
      | .ok x t => next x t
      | .error stop t => .error stop t := by
  show EStateM.bind action next s = _
  unfold EStateM.bind
  cases action s with
  | ok x t => rfl
  | error stop t => rfl

end Action
end Provision
