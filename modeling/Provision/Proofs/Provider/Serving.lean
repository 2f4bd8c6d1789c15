import Provision.Provider
import Provision.Proofs.Action

/-!
# Serving clients

What a client of a provider can ask it to do, and how a provider, or several of them in turn, do a
list of it.
-/

namespace Provision

/-! ## Errands -/

/-- What a client of a provider can do: make a request, or turn to the emitter that the provider was
lent. -/
inductive Errand where
  | request (wanted : Request)
  | declare (name : String) (sig : Signature)
  | define (name : String) (sig : Signature) (linkage : Linkage) (body : Body)

namespace Errand

def perform : Errand -> Action Provider FuncId
  | request wanted => Provider.request wanted
  | declare name sig => Provider.onUnit (CompilationUnit.declareImport name sig)
  | define name sig linkage body =>
      Provider.onUnit (CompilationUnit.define name sig linkage body)

end Errand

/-- Whether a client can go on after an answer. -/
def goesOn : Except Stop FuncId -> Bool
  | .error (.misuse _) => false
  | _ => true

/-! ## One provider -/

namespace Provider

/-- Does errands in turn until one of them is misuse. -/
def serve : List Errand -> Provider -> List (Except Stop FuncId) × Provider
  | [], provider => ([], provider)
  | errand :: rest, provider =>
      let answer := errand.perform.answer provider
      let after := errand.perform.leaves provider
      if goesOn answer then
        let (answers, last) := serve rest after
        (answer :: answers, last)
      else ([answer], after)

end Provider

/-! ## Several providers -/

/-- What one of several providers does: errands under a configuration. -/
structure Shift where
  config : Config
  errands : List Errand

namespace CompilationUnit

/-- Does the errands of shifts in turn, each shift with a provider of its own, until an errand is
misuse. -/
def serveShifts : List Shift -> CompilationUnit -> List (Except Stop FuncId) × CompilationUnit
  | [], unit => ([], unit)
  | shift :: rest, unit =>
      let (answers, provider) := Provider.serve shift.errands (.start unit shift.config)
      if answers.all goesOn then
        let (more, last) := serveShifts rest provider.unit
        (answers ++ more, last)
      else (answers, provider.unit)

end CompilationUnit
end Provision
