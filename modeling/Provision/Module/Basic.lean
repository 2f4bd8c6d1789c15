import Provision.Code.Instruction
import Provision.Fault

/-!
# Modules

A module holds functions, numbered in the order of their declarations, and data objects.  The two
share one space of names.
-/

namespace Provision

/-- A function of a module. -/
structure Declaration where
  name : String
  linkage : Linkage
  signature : MachineSignature
  code : Option Procedure
  deriving DecidableEq, Repr

structure Module where
  functions : List Declaration
  data : List String
  deriving DecidableEq, Repr

namespace Module

def empty : Module where
  functions := []
  data := []

/-! ## Looking up -/

/-- The function of a name. -/
def lookup? (module : Module) (name : String) : Option FuncId :=
  (module.functions.findIdx? fun declaration => declaration.name = name).map FuncId.mk

def declaration? (module : Module) (id : FuncId) : Option Declaration :=
  module.functions[id.index]?

def signature? (module : Module) (id : FuncId) : Option MachineSignature :=
  (module.declaration? id).map Declaration.signature

/-- Whether a function is the module's own for good. -/
def isFinal (module : Module) (id : FuncId) : Bool :=
  (module.declaration? id).any fun declaration => declaration.linkage.isFinal

/-! ## Declaring and defining -/

def update (module : Module) (id : FuncId) (change : Declaration -> Declaration) : Module :=
  { module with functions := module.functions.modify id.index change }

def push (module : Module) (declaration : Declaration) : Module :=
  { module with functions := module.functions ++ [declaration] }

/-- Declares a data object, unless its name is taken. -/
def declareData (module : Module) (name : String) : Module :=
  if (module.lookup? name).isSome || module.data.contains name then module
  else { module with data := module.data ++ [name] }

/-- Declares a function.  For a name that is a function already, the linkages are merged before
the signatures are compared. -/
def declare (name : String) (linkage : Linkage) (signature : MachineSignature) :
    Action Module FuncId := do
  let module ← get
  match module.lookup? name with
  | some id =>
      set (module.update id fun old => { old with linkage := old.linkage.merge linkage })
      if module.signature? id = some signature then pure id
      else Action.fault (.declaration name .incompatibleSignature)
  | none =>
      if module.data.contains name then
        Action.fault (.declaration name .incompatibleDeclaration)
      else do
        set (module.push
          { name := name, linkage := linkage, signature := signature, code := none })
        pure { index := module.functions.length }

/-- Gives a declared function its code, whose stack slots have to fit into a frame. -/
def define (name : String) (id : FuncId) (procedure : Procedure) : Action Module Unit := do
  let module ← get
  match module.declaration? id with
  | none => Action.misuse (.unknownFunction id)
  | some declaration =>
      if !declaration.linkage.isDefinable then
        Action.fault (.declaration name .importDefinition)
      else if declaration.code.isSome then
        Action.fault (.declaration name .duplicateDefinition)
      else if !StackSlot.fitFrame procedure.slots then Action.misuse .frameTooLarge
      else
        set (module.update id fun old => { old with code := some procedure })

end Module
end Provision
