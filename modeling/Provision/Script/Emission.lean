import Provision.Script.Builder

/-!
# Emission

Emits the code of a script.  A counted loop carries its counter, which the header compares with the
bound and the end of the body makes one more, and every local of the script.  What is not wanted of
this is pruned in the end.
-/

namespace Provision

namespace Step

def emit (site : Site) : Step -> Emit Unit
  | param result index => do
      if index < site.signature.params.length then Emit.bind result index
      else Action.misuse (.noSuchParameter index)
  | constInt result type value => do
      Emit.bind result (← Emit.constInt site type value)
  | constFloat result type value => do
      Emit.bind result (← Emit.constFloat type value)
  | zero result type => do
      Emit.bind result (← Emit.zero site type)
  | add result type a b => do
      let a ← Emit.valueOf a
      let b ← Emit.valueOf b
      Emit.bind result (← Emit.compute (if type.isFloat then .float .add a b else .int .add a b))
  | mul result type a b => do
      let a ← Emit.valueOf a
      let b ← Emit.valueOf b
      Emit.bind result (← Emit.compute (if type.isFloat then .float .mul a b else .int .mul a b))
  | multiplyAdd result a b c => do
      let a ← Emit.valueOf a
      let b ← Emit.valueOf b
      let c ← Emit.valueOf c
      let product ← Emit.compute (.int .mul a b)
      Emit.bind result (← Emit.compute (.int .add product c))
  | int result operator a b => do
      let a ← Emit.valueOf a
      let b ← Emit.valueOf b
      Emit.bind result (← Emit.compute (.int operator a b))
  | float result operator a b => do
      let a ← Emit.valueOf a
      let b ← Emit.valueOf b
      Emit.bind result (← Emit.compute (.float operator a b))
  | unary result function a => do
      let a ← Emit.valueOf a
      Emit.bind result (← Emit.compute (.unary function a))
  | extend128 result a => do
      let a ← Emit.valueOf a
      Emit.bind result (← Emit.compute (.signExtend .i128 a))
  | fromSigned result type a => do
      let a ← Emit.valueOf a
      Emit.bind result (← Emit.fromSigned site type a)
  | fromUnsigned result type a => do
      let a ← Emit.valueOf a
      Emit.bind result (← Emit.fromUnsigned site type a)
  | truncate result type a => do
      let a ← Emit.valueOf a
      Emit.bind result (← Emit.compute (.toSigned (site.lowering.lower type) a))
  | select result condition a b => do
      let condition ← Emit.valueOf condition
      let a ← Emit.valueOf a
      let b ← Emit.valueOf b
      Emit.bind result (← Emit.compute (.select condition a b))
  | equals result a value => do
      let a ← Emit.valueOf a
      Emit.bind result (← Emit.compute (.equalsImmediate a (BitVec.ofInt 64 value)))
  | addressAt result element base index => do
      let base ← Emit.valueOf base
      let index ← Emit.valueOf index
      Emit.bind result (← Emit.addressAt site element base index)
  | loadAt result element base index => do
      let base ← Emit.valueOf base
      let index ← Emit.valueOf index
      let address ← Emit.addressAt site element base index
      Emit.bind result (← Emit.load site element address 0)
  | storeAt element base index value => do
      let base ← Emit.valueOf base
      let index ← Emit.valueOf index
      let value ← Emit.valueOf value
      let address ← Emit.addressAt site element base index
      Emit.append (.store value address 0)
  | load result type address offset => do
      let address ← Emit.valueOf address
      Emit.bind result (← Emit.load site type address offset)
  | store value address offset => do
      let value ← Emit.valueOf value
      let address ← Emit.valueOf address
      Emit.append (.store value address offset)
  | reserve result size alignShift => do
      Emit.bind result (← Emit.reserve site size alignShift)
  | newLocal name _ init => do
      let init ← Emit.valueOf init
      Emit.newLocal name init
  | readLocal result name => do
      let id ← Emit.localOf name
      Emit.bind result (← Emit.readLocal id)
  | assignLocal name value => do
      let id ← Emit.localOf name
      let value ← Emit.valueOf value
      Emit.assignLocal name id value
  | call results callee arguments => do
      let arguments ← Emit.valuesOf arguments
      let returned ← Emit.call site callee arguments
      Emit.note (.results returned.length)
      Emit.bindAll results returned
  | callFirst result callee arguments => do
      let arguments ← Emit.valuesOf arguments
      Emit.bind result (← Emit.callFirst site callee arguments)
  | fail type => Action.fault (.unsupported "body" type)
  | note type =>
      Emit.note (.type (site.lowering.lower type) (site.lowering.bytes type) site.lowering.pointer)

end Step

/-! ## Loops -/

namespace CountedLoop

/-- The bound of a loop and the zero from which it counts. -/
def start (loop : CountedLoop) : Emit (ValueId × ValueId) := do
  let bound ← Emit.valueOf loop.bound
  let origin ← Emit.compute (.constInt (← Emit.typeOf bound) 0)
  pure (bound, origin)

/-- Compares the index, which gets the counter's name, with the bound. -/
def header (loop : CountedLoop) (index bound : ValueId) : Emit ValueId := do
  Emit.recordUse (.read index)
  let test ← Emit.compute (.less index bound)
  Emit.bind loop.counter index
  pure test

end CountedLoop

namespace Emit

/-- New values for what a loop carries, the counter and the locals, in place of the given ones. -/
def openLoop (origin : ValueId) (outer : List ValueId) : Emit (ValueId × List ValueId) := do
  let index ← fresh (← typeOf origin)
  let inner ← another outer
  setLocals inner
  pure (index, inner)

/-- Ends a loop.  After it, the locals are what it carries. -/
def closeLoop (index : ValueId) (inner : List ValueId) : Emit Unit := do
  setLocals inner
  recordUse (.close (index :: inner))

/-- What a loop carries, given the values, their initial values and their next values. -/
def carried : (values initials nexts : List ValueId) -> Emit (List Carried)
  | value :: values, initial :: initials, next :: nexts => do
      let type ← typeOf value
      let rest ← carried values initials nexts
      pure ({ value := value, type := type, initial := initial, next := next } :: rest)
  | _, _, _ => pure []

end Emit

/-! ## Scripts -/

namespace Region

/-- Emits code whose loops carry every local. -/
def emit (site : Site) : Script -> Emit Code
  | done => pure done
  | step first rest => do
      first.emit site
      let instructions ← Emit.drain
      let code ← emit site rest
      pure (prepend instructions code)
  | loop head body rest => do
      let (bound, origin) ← head.start
      let before ← Emit.drain
      let outer ← Emit.locals
      let (index, inner) ← Emit.openLoop origin outer
      let test ← head.header index bound
      let instructions ← Emit.drain
      let pass ← emit site body
      let next ← Emit.compute (.addImmediate index 1)
      let last ← Emit.drain
      let after ← Emit.locals
      let carried ← Emit.carried (index :: inner) (origin :: outer) (next :: after)
      Emit.closeLoop index inner
      let code ← emit site rest
      let header : LoopHeader :=
        { carried := carried, instructions := instructions, test := test }
      pure (prepend before (loop header (pass.append (ofSteps last)) code))

end Region

namespace Body

def emit (site : Site) (body : Body) : Emit (Code × List ValueId) := do
  let code ← body.script.emit site
  let results ← Emit.valuesOf body.returns
  pure (code, results)

def locals (site : Site) (body : Body) : List MachineType :=
  body.script.locals.map site.lowering.lower

/-- The zeros that locals have before they are made, as far as they are wanted. -/
def zeros (site : Site) (body : Body) (demand : Demand) : List Instruction :=
  let first := site.signature.params.length
  ((body.locals site).zipIdx first).filterMap fun (type, value) =>
    if demand.wanted.contains value then some (.compute value (Operation.zero type)) else none

/-- The procedure that emitted code is pruned to. -/
def procedure (site : Site) (body : Body) (code : Code) (results : List ValueId)
    (builder : Builder) : Procedure :=
  let demand := Demand.ofUses code.carried builder.uses
  { signature := site.signature
    slots := builder.slots
    code := Region.prepend (body.zeros site demand) (code.prune demand)
    results := results.map demand.resolve
    near := code.callees.filter site.isFinal }

/-- The procedure that a body is emitted to, and the notes made, which are kept if it stops. -/
def build (site : Site) (body : Body) : Except Stop Procedure × List Note :=
  match body.emit site (Builder.start site.signature.params (body.locals site)) with
  | .ok (code, results) builder => (.ok (body.procedure site code results builder), builder.notes)
  | .error stop builder => (.error stop, builder.notes)

end Body
end Provision
