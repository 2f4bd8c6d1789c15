import Provision.Code.Pruning
import Provision.Fault
import Provision.Script

/-!
# Builders

A builder holds what has been emitted of a function: the types of its values, the names bound to
them, its locals and stack slots, and the notes made on the way.

A local is no place in memory: the builder knows at every point which value it has there.
-/

namespace Provision

/-- What a script has asked to be told while it was emitted. -/
inductive Note where
  | results (count : Nat)
  | type (lowered : MachineType) (bytes : Nat) (pointer : MachineType)
  deriving DecidableEq, Repr

/-- A local, by its place in the order in which the locals are made. -/
abbrev LocalId :=
  Nat

structure Builder where
  types : List MachineType
  names : List (String × ValueId)
  localNames : List (String × LocalId)
  /-- The value that each local of the script has here. -/
  locals : List ValueId
  slots : List StackSlot
  pending : List Instruction
  uses : List Usage
  notes : List Note
  deriving DecidableEq, Repr

/-- What a script is emitted for: the lowering, the signature of the function under construction,
those of the functions it may call, and which of these are the module's own for good. -/
structure Site where
  lowering : Lowering
  signature : MachineSignature
  signatureOf? : FuncId -> Option MachineSignature
  isFinal : FuncId -> Bool

abbrev Emit :=
  Action Builder

namespace Builder

/-- The builder of a function with the given parameters and locals.  Behind the parameters, each
local has a value of its own, which is zero, until the script makes it. -/
def start (params locals : List MachineType) : Builder where
  types := params ++ locals
  names := []
  localNames := []
  locals := List.range' params.length locals.length
  slots := []
  pending := []
  uses := []
  notes := []

def typeOf (builder : Builder) (value : ValueId) : MachineType :=
  builder.types.getD value default

end Builder

namespace Emit

/-! ## Values and instructions -/

/-- A new value of a type. -/
def fresh (type : MachineType) : Emit ValueId := do
  let builder ← get
  set { builder with types := builder.types ++ [type] }
  pure builder.types.length

def typeOf (value : ValueId) : Emit MachineType := do
  pure ((← get).typeOf value)

/-- New values of the types of the given ones. -/
def another : List ValueId -> Emit (List ValueId)
  | [] => pure []
  | value :: rest => do
      let new ← fresh (← typeOf value)
      let news ← another rest
      pure (new :: news)

def append (instruction : Instruction) : Emit Unit :=
  modify fun builder => { builder with pending := builder.pending ++ [instruction] }

/-- Takes the instructions appended since the last time. -/
def drain : Emit (List Instruction) := do
  let builder ← get
  set { builder with pending := [] }
  pure builder.pending

def compute (operation : Operation) : Emit ValueId := do
  let builder ← get
  let result ← fresh (operation.resultType builder.typeOf)
  append (.compute result operation)
  pure result

/-! ## Names -/

def bind (name : String) (value : ValueId) : Emit Unit :=
  modify fun builder => { builder with names := (name, value) :: builder.names }

def valueOf (name : String) : Emit ValueId := do
  match (← get).names.lookup name with
  | some value => pure value
  | none => Action.misuse (.unboundName name)

def valuesOf : List String -> Emit (List ValueId)
  | [] => pure []
  | name :: rest => do
      let value ← valueOf name
      let values ← valuesOf rest
      pure (value :: values)

def bindAll : List String -> List ValueId -> Emit Unit
  | name :: names, value :: values => do
      bind name value
      bindAll names values
  | _, _ => pure ()

def note (note : Note) : Emit Unit :=
  modify fun builder => { builder with notes := builder.notes ++ [note] }

/-! ## Constants and conversions -/

def constInt (site : Site) (type : DataType) (value : Int) : Emit ValueId :=
  compute (.constInt (site.lowering.lower type) (BitVec.ofInt 64 value))

/-- A constant of the single format where that is asked for, else of the double format. -/
def constFloat (type : DataType) (value : Binary.Pattern .double) : Emit ValueId :=
  match type with
  | .float32 => compute (.constFloat .single (value.convert .single))
  | _ => compute (.constFloat .double value)

def zero (site : Site) (type : DataType) : Emit ValueId :=
  if type.isFloat then constFloat type (Binary.Pattern.zero .double) else constInt site type 0

/-- Extends or reduces an integer to the width of a type. -/
def resize (extend : MachineType -> ValueId -> Operation) (type : MachineType) (value : ValueId) :
    Emit ValueId := do
  let bits := (← typeOf value).bits
  if bits < type.bits then compute (extend type.integer value)
  else if type.bits < bits then compute (.reduce type.integer value)
  else pure value

def fromSigned (site : Site) (type : DataType) (value : ValueId) : Emit ValueId := do
  let type := site.lowering.lower type
  let value ← resize .signExtend type value
  compute (.ofSigned type value)

def fromUnsigned (site : Site) (type : DataType) (value : ValueId) : Emit ValueId := do
  let type := site.lowering.lower type
  let value ← resize .zeroExtend type value
  compute (.ofUnsigned type value)

/-! ## Memory -/

/-- Address of an element: the base and as many times the size of the type as the index says,
the index taken as a signed number of pointer width. -/
def addressAt (site : Site) (element : DataType) (base index : ValueId) :
    Emit ValueId := do
  let index ← resize .signExtend site.lowering.pointer index
  let offset ← compute (.mulImmediate index (BitVec.ofNat 64 (site.lowering.bytes element)))
  compute (.int .add base offset)

def load (site : Site) (type : DataType) (address : ValueId) (offset : Int) :
    Emit ValueId := do
  let type := site.lowering.lower type
  let result ← fresh type
  append (.load result type address offset)
  pure result

def reserve (site : Site) (size alignShift : Nat) : Emit ValueId := do
  let builder ← get
  let slot : StackSlot := { size := size, alignShift := alignShift }
  set { builder with slots := builder.slots ++ [slot] }
  let result ← fresh site.lowering.pointer
  append (.slotAddress result builder.slots.length)
  pure result

/-! ## Locals -/

def recordUse (usage : Usage) : Emit Unit :=
  modify fun builder => { builder with uses := builder.uses ++ [usage] }

def locals : Emit (List ValueId) := do
  pure (← get).locals

def setLocals (values : List ValueId) : Emit Unit :=
  modify fun builder => { builder with locals := values }

def localOf (name : String) : Emit LocalId := do
  match (← get).localNames.lookup name with
  | some id => pure id
  | none => Action.misuse (.unboundName name)

/-- The value that a local has here. -/
def localValue (id : LocalId) : Emit ValueId := do
  pure ((← get).locals.getD id default)

def readLocal (id : LocalId) : Emit ValueId := do
  let value ← localValue id
  recordUse (.read value)
  pure value

/-- Gives a local another value of its type; the script knows the local by the name. -/
def assignLocal (name : String) (id : LocalId) (value : ValueId) : Emit Unit := do
  if (← typeOf value) = (← typeOf (← localValue id)) then
    modify fun builder => { builder with locals := builder.locals.set id value }
  else Action.misuse (.wrongLocalType name)

/-- Makes the next local under a name. -/
def newLocal (name : String) (init : ValueId) : Emit Unit := do
  let id := (← get).localNames.length
  assignLocal name id init
  modify fun builder => { builder with localNames := (name, id) :: builder.localNames }

/-! ## Calls -/

def freshAll : List MachineType -> Emit (List ValueId)
  | [] => pure []
  | type :: rest => do
      let value ← fresh type
      let values ← freshAll rest
      pure (value :: values)

def call (site : Site) (callee : FuncId) (arguments : List ValueId) : Emit (List ValueId) := do
  match site.signatureOf? callee with
  | none => Action.misuse (.unknownFunction callee)
  | some signature =>
      let results ← freshAll signature.returns
      append (.call results callee arguments)
      pure results

/-- A call for its first result. -/
def callFirst (site : Site) (callee : FuncId) (arguments : List ValueId) : Emit ValueId := do
  match ← call site callee arguments with
  | result :: _ => pure result
  | [] => Action.fault (.noResult callee)

end Emit
end Provision
