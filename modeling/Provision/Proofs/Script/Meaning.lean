import Provision.Code.Run
import Provision.Proofs.Script.Outcome

/-!
# What scripts say

What a script does, read step by step.  A name stands for a value and a local holds one.  A counted
loop finds out its bound once, and goes through its body for every number from zero up to it.
-/

namespace Provision

/-! ## Values -/

namespace Operation

/-- What an operation makes of the values that its operands number. -/
def on (operation : Operation) (values : List Scalar) : Option Scalar :=
  operation.eval fun place => values[place]?

/-- A constant of the single format where that is asked for, else of the double format. -/
def floatConstant (type : DataType) (value : Binary.Pattern .double) : Operation :=
  match type with
  | .float32 => constFloat .single (value.convert .single)
  | _ => constFloat .double value

theorem operands_floatConstant (type : DataType) (value : Binary.Pattern .double) :
    (floatConstant type value).operands = [] := by
  cases type
  all_goals rfl

/-- An operation without operands is the same on any. -/
theorem rename_eq_self {operation : Operation} (h : operation.operands = [])
    (f : ValueId -> ValueId) : operation.rename f = operation := by
  cases operation
  case constInt => rfl
  case constFloat => rfl
  all_goals cases h

end Operation

namespace Lowering

variable (lowering : Lowering)

def zeroConstant (type : DataType) : Operation :=
  if type.isFloat then Operation.floatConstant type (Binary.Pattern.zero .double)
  else .constInt (lowering.lower type) (BitVec.ofInt 64 0)

theorem operands_zeroConstant (type : DataType) :
    (lowering.zeroConstant type).operands = [] := by
  unfold zeroConstant
  split
  · exact Operation.operands_floatConstant _ _
  · rfl

/-- An integer extended or reduced to the width of a type. -/
def resized (extend : MachineType -> ValueId -> Operation) (type : MachineType) (x : Scalar) :
    Option Scalar :=
  if x.type.bits < type.bits then (extend type.integer 0).on [x]
  else if type.bits < x.type.bits then (Operation.reduce type.integer 0).on [x]
  else some x

def fromSigned (type : DataType) (x : Scalar) : Option Scalar := do
  let x ← resized .signExtend (lowering.lower type) x
  (Operation.ofSigned (lowering.lower type) 0).on [x]

def fromUnsigned (type : DataType) (x : Scalar) : Option Scalar := do
  let x ← resized .zeroExtend (lowering.lower type) x
  (Operation.ofUnsigned (lowering.lower type) 0).on [x]

/-- Address of an element: the base and as many times the size of the type as the index says. -/
def addressAt (element : DataType) (base index : Scalar) : Option Scalar := do
  let index ← resized .signExtend lowering.pointer index
  let offset ← (Operation.mulImmediate 0 (BitVec.ofNat 64 (lowering.bytes element))).on [index]
  (Operation.int .add 0 1).on [base, offset]

end Lowering

/-! ## Scenes -/

/-- What a script is run with: the lowering, the arguments of the call, the addresses of its stack
slots, and what calls of other functions do. -/
structure Setting (σ : Type) where
  lowering : Lowering
  arguments : List Scalar
  slots : List Memory.Address
  invoke : FuncId -> Behaviour σ

/-- Where a run of a script is. -/
structure Scene (σ : Type) where
  names : List (String × Scalar)
  locals : List Scalar
  world : World σ

namespace Scene

variable {σ : Type} (scene : Scene σ)

def value? (name : String) : Option Scalar :=
  scene.names.lookup name

def bind (name : String) (x : Scalar) : Scene σ :=
  { scene with names := (name, x) :: scene.names }

def bindAll (names : List String) (xs : List Scalar) : Scene σ :=
  { scene with names := (names.zip xs).reverse ++ scene.names }

def load (type : MachineType) (address : Scalar) (offset : Int) : Option Scalar := do
  let a ← address.asAddress?
  some (scene.world.memory.load type (a + BitVec.ofInt 64 offset))

def store (address : Scalar) (offset : Int) (x : Scalar) : Option (Scene σ) := do
  let a ← address.asAddress?
  let memory := scene.world.memory.store (a + BitVec.ofInt 64 offset) x
  some { scene with world := { scene.world with memory := memory } }

end Scene

/-- What of a script comes before a place in it: which locals there are, by their names, and how
many stack slots. -/
structure Progress where
  localNames : List (String × LocalId)
  slots : Nat
  deriving DecidableEq, Repr

namespace Progress

def empty : Progress where
  localNames := []
  slots := 0

end Progress

/-! ## Steps -/

namespace Step

variable {σ : Type}

def progress (progress : Progress) : Step -> Progress
  | newLocal name _ _ =>
      { progress with localNames := (name, progress.localNames.length) :: progress.localNames }
  | reserve _ _ _ => { progress with slots := progress.slots + 1 }
  | _ => progress

def run (setting : Setting σ) (progress : Progress) : Step -> Scene σ -> Option (Scene σ)
  | param result index, scene => do
      let x ← setting.arguments[index]?
      some (scene.bind result x)
  | constInt result type value, scene => do
      let x ← (Operation.constInt (setting.lowering.lower type) (BitVec.ofInt 64 value)).on []
      some (scene.bind result x)
  | constFloat result type value, scene => do
      let x ← (Operation.floatConstant type value).on []
      some (scene.bind result x)
  | zero result type, scene => do
      let x ← (setting.lowering.zeroConstant type).on []
      some (scene.bind result x)
  | add result type a b, scene => do
      let x ← scene.value? a
      let y ← scene.value? b
      let z ← (if type.isFloat then Operation.float .add 0 1 else .int .add 0 1).on [x, y]
      some (scene.bind result z)
  | mul result type a b, scene => do
      let x ← scene.value? a
      let y ← scene.value? b
      let z ← (if type.isFloat then Operation.float .mul 0 1 else .int .mul 0 1).on [x, y]
      some (scene.bind result z)
  | multiplyAdd result a b c, scene => do
      let x ← scene.value? a
      let y ← scene.value? b
      let z ← scene.value? c
      let product ← (Operation.int .mul 0 1).on [x, y]
      let sum ← (Operation.int .add 0 1).on [product, z]
      some (scene.bind result sum)
  | int result operator a b, scene => do
      let x ← scene.value? a
      let y ← scene.value? b
      let z ← (Operation.int operator 0 1).on [x, y]
      some (scene.bind result z)
  | float result operator a b, scene => do
      let x ← scene.value? a
      let y ← scene.value? b
      let z ← (Operation.float operator 0 1).on [x, y]
      some (scene.bind result z)
  | unary result function a, scene => do
      let x ← scene.value? a
      let y ← (Operation.unary function 0).on [x]
      some (scene.bind result y)
  | extend128 result a, scene => do
      let x ← scene.value? a
      let y ← (Operation.signExtend .i128 0).on [x]
      some (scene.bind result y)
  | fromSigned result type a, scene => do
      let x ← scene.value? a
      let y ← setting.lowering.fromSigned type x
      some (scene.bind result y)
  | fromUnsigned result type a, scene => do
      let x ← scene.value? a
      let y ← setting.lowering.fromUnsigned type x
      some (scene.bind result y)
  | truncate result type a, scene => do
      let x ← scene.value? a
      let y ← (Operation.toSigned (setting.lowering.lower type) 0).on [x]
      some (scene.bind result y)
  | select result condition a b, scene => do
      let x ← scene.value? condition
      let y ← scene.value? a
      let z ← scene.value? b
      let chosen ← (Operation.select 0 1 2).on [x, y, z]
      some (scene.bind result chosen)
  | equals result a value, scene => do
      let x ← scene.value? a
      let y ← (Operation.equalsImmediate 0 (BitVec.ofInt 64 value)).on [x]
      some (scene.bind result y)
  | addressAt result element base index, scene => do
      let x ← scene.value? base
      let y ← scene.value? index
      let place ← setting.lowering.addressAt element x y
      some (scene.bind result place)
  | loadAt result element base index, scene => do
      let x ← scene.value? base
      let y ← scene.value? index
      let place ← setting.lowering.addressAt element x y
      let z ← scene.load (setting.lowering.lower element) place 0
      some (scene.bind result z)
  | storeAt element base index value, scene => do
      let x ← scene.value? base
      let y ← scene.value? index
      let z ← scene.value? value
      let place ← setting.lowering.addressAt element x y
      scene.store place 0 z
  | load result type address offset, scene => do
      let x ← scene.value? address
      let y ← scene.load (setting.lowering.lower type) x offset
      some (scene.bind result y)
  | store value address offset, scene => do
      let x ← scene.value? value
      let y ← scene.value? address
      scene.store y offset x
  | reserve result _ _, scene => do
      let a ← setting.slots[progress.slots]?
      some (scene.bind result (.address a))
  | newLocal _ _ init, scene => do
      let x ← scene.value? init
      some { scene with locals := scene.locals.set progress.localNames.length x }
  | readLocal result name, scene => do
      let id ← progress.localNames.lookup name
      let x ← scene.locals[id]?
      some (scene.bind result x)
  | assignLocal name value, scene => do
      let id ← progress.localNames.lookup name
      let x ← scene.value? value
      some { scene with locals := scene.locals.set id x }
  | call results callee arguments, scene => do
      let xs ← arguments.mapM scene.value?
      let (ys, world) ← setting.invoke callee xs scene.world
      some ({ scene with world := world }.bindAll results ys)
  | callFirst result callee arguments, scene => do
      let xs ← arguments.mapM scene.value?
      let (ys, world) ← setting.invoke callee xs scene.world
      let y ← ys.head?
      some ({ scene with world := world }.bind result y)
  | fail _, _ => none
  | note _, scene => some scene

end Step

/-! ## Scripts -/

namespace Script

variable {σ : Type}

/-- One pass of a loop's body, with its number under the name of the counter.  What names the pass
binds is forgotten after it. -/
def pass (body : Scene σ -> Option (Scene σ)) (counter : String) (width : Width) (outer : Scene σ)
    (state : Scene σ) (i : Nat) : Option (Scene σ) := do
  let after ← body (state.bind counter (.int width (.ofNat _ i)))
  some { after with names := outer.names }

/-- A pass for every number from zero up to a count. -/
def passes (body : Scene σ -> Option (Scene σ)) (counter : String) (width : Width) (count : Nat)
    (scene : Scene σ) : Option (Scene σ) :=
  (List.range count).foldlM (pass body counter width scene) scene

def progress (progress : Progress) : Script -> Progress
  | .done => progress
  | .step first rest => Script.progress (first.progress progress) rest
  | .loop _ body rest => Script.progress (Script.progress progress body) rest

/-- What a script does from a scene on.  After a loop the counter is what the bound is, or zero if
that is less. -/
def run (setting : Setting σ) : Progress -> Script -> Scene σ -> Option (Scene σ)
  | _, .done, scene => some scene
  | progress, .step first rest, scene => do
      let scene ← first.run setting progress scene
      run setting (first.progress progress) rest scene
  | progress, .loop head body rest, scene => do
      match ← scene.value? head.bound with
      | .float _ _ => none
      | .int width bound =>
          let count := bound.toInt.toNat
          let scene ← passes (run setting progress body) head.counter width count scene
          run setting (Script.progress progress body) rest
            (scene.bind head.counter (.int width (.ofNat _ count)))

end Script

namespace Body

variable {σ : Type}

/-- What a body does as it is written.  Its locals are zero before it makes them, and its stack
slots are given back in the end. -/
def run (lowering : Lowering) (invoke : FuncId -> Behaviour σ) (body : Body) : Behaviour σ :=
  fun arguments world => do
    let stack := StackSlot.bottom body.script.slots world.stack
    let setting : Setting σ :=
      { lowering := lowering
        arguments := arguments
        slots := StackSlot.addresses body.script.slots stack
        invoke := invoke }
    let scene ← body.script.run setting .empty
      { names := []
        locals := body.script.locals.map fun type => Scalar.zero (lowering.lower type)
        world := { world with stack := stack } }
    let results ← body.returns.mapM scene.value?
    some (results, { scene.world with stack := world.stack })

end Body

/-! ## Names that are in scope -/

namespace Step

/-- Names whose values a step uses. -/
def uses : Step -> List String
  | param _ _ => []
  | constInt _ _ _ => []
  | constFloat _ _ _ => []
  | zero _ _ => []
  | add _ _ a b => [a, b]
  | mul _ _ a b => [a, b]
  | multiplyAdd _ a b c => [a, b, c]
  | int _ _ a b => [a, b]
  | float _ _ a b => [a, b]
  | unary _ _ a => [a]
  | extend128 _ a => [a]
  | fromSigned _ _ a => [a]
  | fromUnsigned _ _ a => [a]
  | truncate _ _ a => [a]
  | select _ condition a b => [condition, a, b]
  | equals _ a _ => [a]
  | addressAt _ _ base index => [base, index]
  | loadAt _ _ base index => [base, index]
  | storeAt _ base index value => [base, index, value]
  | load _ _ address _ => [address]
  | store value address _ => [value, address]
  | reserve _ _ _ => []
  | newLocal _ _ init => [init]
  | readLocal _ _ => []
  | assignLocal _ value => [value]
  | call _ _ arguments => arguments
  | callFirst _ _ arguments => arguments
  | fail _ => []
  | note _ => []

/-- Names that a step binds.  A call binds no more of them than it has results. -/
def binds (signatureOf? : FuncId -> Option MachineSignature) : Step -> List String
  | param result _ => [result]
  | constInt result _ _ => [result]
  | constFloat result _ _ => [result]
  | zero result _ => [result]
  | add result _ _ _ => [result]
  | mul result _ _ _ => [result]
  | multiplyAdd result _ _ _ => [result]
  | int result _ _ _ => [result]
  | float result _ _ _ => [result]
  | unary result _ _ => [result]
  | extend128 result _ => [result]
  | fromSigned result _ _ => [result]
  | fromUnsigned result _ _ => [result]
  | truncate result _ _ => [result]
  | select result _ _ _ => [result]
  | equals result _ _ => [result]
  | addressAt result _ _ _ => [result]
  | loadAt result _ _ _ => [result]
  | storeAt _ _ _ _ => []
  | load result _ _ _ => [result]
  | store _ _ _ => []
  | reserve result _ _ => [result]
  | newLocal _ _ _ => []
  | readLocal result _ => [result]
  | assignLocal _ _ => []
  | call results callee _ =>
      match signatureOf? callee with
      | some signature => results.take signature.returns.length
      | none => []
  | callFirst result _ _ => [result]
  | fail _ => []
  | note _ => []

end Step

namespace Script

variable (signatureOf? : FuncId -> Option MachineSignature)

def binds : Script -> List String
  | .done => []
  | .step first rest => first.binds signatureOf? ++ binds rest
  | .loop head body rest => head.counter :: (binds body ++ binds rest)

/-- Names that are out of scope after a script, given those that are before it: what a loop's body
binds is out of scope after the loop, until it is bound anew. -/
def hides : List String -> Script -> List String
  | hidden, .done => hidden
  | hidden, .step first rest =>
      hides (hidden.filter fun name => !(first.binds signatureOf?).contains name) rest
  | hidden, .loop head body rest =>
      hides (binds signatureOf? body ++ hidden.filter fun name => name != head.counter) rest

/-- Whether a script uses no name that is out of scope. -/
def isScoped : List String -> Script -> Bool
  | _, .done => true
  | hidden, .step first rest =>
      first.uses.all (fun name => !hidden.contains name) &&
        isScoped (hidden.filter fun name => !(first.binds signatureOf?).contains name) rest
  | hidden, .loop head body rest =>
      !hidden.contains head.bound &&
        isScoped (hidden.filter fun name => name != head.counter) body &&
          isScoped (binds signatureOf? body ++ hidden.filter fun name => name != head.counter) rest

end Script

/-- Whether a body uses no name outside of the loop that binds it. -/
def Body.isScoped (signatureOf? : FuncId -> Option MachineSignature) (body : Body) : Bool :=
  body.script.isScoped signatureOf? [] &&
    body.returns.all fun name => !(body.script.hides signatureOf? []).contains name

end Provision
