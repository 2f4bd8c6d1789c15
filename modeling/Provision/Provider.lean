import Provision.Module.CompilationUnit
import Provision.Request
import Provision.Routine.Clock
import Provision.Routine.Product

/-!
# Providers

A provider answers requests for functions of one compilation unit.  It looks for a symbol in its
registry, then in the module, and only then declares or defines the function.
-/

namespace Provision

structure Provider where
  unit : CompilationUnit
  registry : Registry
  config : Config
  /-- Where the clock comes from on the target that the provider was started for. -/
  clock : ClockOrigin
  /-- The function that tells the current time, once it has been provided. -/
  currentTime : Option FuncId

namespace Provider

/-- A provider that has provided nothing yet. -/
def start (unit : CompilationUnit) (config : Config) : Provider where
  unit :=
    { unit with
      log := unit.log ++ [.providerCreated unit.name (ClockOrigin.ofTarget unit.target)] }
  registry := Registry.empty
  config := config
  clock := ClockOrigin.ofTarget unit.target
  currentTime := none

def onUnit {α : Type} (action : Action CompilationUnit α) : Action Provider α :=
  Action.onPart Provider.unit (fun unit provider => { provider with unit := unit }) action

def record (event : Event) : Action Provider Unit :=
  onUnit (CompilationUnit.record event)

/-! ## Resolution -/

section Resolution

variable (register : Symbol -> FuncId -> Action Registry Unit)

def rememberBy (symbol : Symbol) (id : FuncId) : Action Provider Unit :=
  Action.onPart Provider.registry (fun registry provider => { provider with registry := registry })
    (register symbol id)

/-- The function of a symbol; it is made only if neither the registry nor the module has it. -/
def obtainBy (symbol : Symbol) (make : Action CompilationUnit FuncId) :
    Action Provider FuncId := do
  let provider ← get
  match provider.registry.find? symbol with
  | some id => do
      record (.registryHit symbol.name)
      pure id
  | none =>
      match provider.unit.lookup? symbol.name with
      | some id => do
          record (.alreadyInModule symbol.name)
          rememberBy register symbol id
          pure id
      | none => do
          let id ← onUnit make
          rememberBy register symbol id
          pure id

end Resolution

def obtain (symbol : Symbol) (make : Action CompilationUnit FuncId) : Action Provider FuncId :=
  obtainBy Registry.register symbol make

/-! ## Requests over a way to obtain functions -/

/-- Defines a kernel in the module. -/
def defineKernel (kernel : Kernel) (element : DataType) (symbol : Symbol) :
    Action CompilationUnit FuncId := do
  CompilationUnit.record (.synthesizing symbol.name kernel element)
  CompilationUnit.define symbol.name (kernel.signature element) .internal
    (Routine.kernel kernel element)

namespace Generic

variable (provide : Symbol -> Action CompilationUnit FuncId -> Action Provider FuncId)

/-- A function that is defined elsewhere. -/
def imported (symbol : Symbol) (sig : Signature) : Action Provider FuncId :=
  provide symbol (CompilationUnit.declareImport symbol.name sig)

/-- A function that the module defines. -/
def synthesized (symbol : Symbol) (sig : Signature) (linkage : Linkage) (body : Body) :
    Action Provider FuncId :=
  provide symbol (CompilationUnit.define symbol.name sig linkage body)

def elementary (function : ElementaryFunction) (type : DataType) : Action Provider FuncId :=
  match function.symbol type with
  | .error fault => Action.fault fault
  | .ok symbol =>
      match function.instruction? with
      | none => imported provide symbol (ElementaryFunction.signature type)
      | some instruction =>
          synthesized provide symbol (ElementaryFunction.signature type) .internal
            (Routine.wrapper instruction)

def kernel (kernel : Kernel) (element : DataType) (binding : Binding) : Action Provider FuncId :=
  match kernel.symbol element binding with
  | .error fault => Action.fault fault
  | .ok symbol =>
      match binding with
      | .library => imported provide symbol (kernel.signature element)
      | .module => provide symbol (defineKernel kernel element symbol)

def dot (element : DotElement) : Action Provider FuncId := do
  let provider ← get
  synthesized provide (element.symbol provider.unit.name) element.signature .exported
    (Routine.dot element.type)

/-- The clock: declared where the C library has it, else defined over the performance counters. -/
def clockFunction : Action Provider FuncId := do
  let provider ← get
  let layout := provider.unit.timeLayout
  match provider.clock with
  | .posix => imported provide Symbol.clock (Routine.clockSignature layout)
  | .performanceCounter => do
      let counter ← imported provide Symbol.queryCounter Routine.querySignature
      let frequency ← imported provide Symbol.queryFrequency Routine.querySignature
      synthesized provide Symbol.clock (Routine.clockSignature layout) .internal
        (Routine.counterClock counter frequency layout)

/-- The function that tells the current time, over a clock. -/
def timeOver (clock : FuncId) : Action Provider FuncId := do
  let provider ← get
  synthesized provide (Symbol.currentTime provider.unit.name) Routine.currentTimeSignature
    .exported (Routine.currentTime clock provider.unit.timeLayout)

/-- The function that tells the current time; asked for again, the provider remembers it. -/
def timeFunction : Action Provider FuncId := do
  let provider ← get
  match provider.currentTime with
  | some id => pure id
  | none => do
      let clock ← Action.mapFault (.unresolved Symbol.clock.name) (clockFunction provide)
      let id ← timeOver provide clock
      record (.currentTimeReady id provider.clock)
      modify fun provider => { provider with currentTime := some id }
      pure id

/-- Answers a request with a function of the module. -/
def request : Request -> Action Provider FuncId
  | .elementary function type => elementary provide function type
  | .kernel wanted element binding => do
      let provider ← get
      kernel provide wanted element (binding.getD provider.config.binding)
  | .getThreads => imported provide Symbol.getThreads (.query [] .native)
  | .setThreads => imported provide Symbol.setThreads (.command [.native])
  | .dot element => dot provide element
  | .clock => clockFunction provide
  | .currentTime => timeFunction provide

end Generic

/-! ## Requests -/

abbrev imported (symbol : Symbol) (sig : Signature) : Action Provider FuncId :=
  Generic.imported obtain symbol sig

abbrev synthesized (symbol : Symbol) (sig : Signature) (linkage : Linkage) (body : Body) :
    Action Provider FuncId :=
  Generic.synthesized obtain symbol sig linkage body

abbrev elementary (function : ElementaryFunction) (type : DataType) : Action Provider FuncId :=
  Generic.elementary obtain function type

abbrev kernel (kernel : Kernel) (element : DataType) (binding : Binding) : Action Provider FuncId :=
  Generic.kernel obtain kernel element binding

abbrev dot (element : DotElement) : Action Provider FuncId :=
  Generic.dot obtain element

abbrev clockFunction : Action Provider FuncId :=
  Generic.clockFunction obtain

abbrev timeOver (clock : FuncId) : Action Provider FuncId :=
  Generic.timeOver obtain clock

abbrev timeFunction : Action Provider FuncId :=
  Generic.timeFunction obtain

def request (wanted : Request) : Action Provider FuncId :=
  Generic.request obtain wanted

end Provider
end Provision
