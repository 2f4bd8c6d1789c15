import Provision.Proofs.Provider.Authoring

/-!
# Tenures

A module passes from emitter to emitter, each under a name, for a target and with a time layout of
its own.  An emitter lends it to providers, which do nothing but answer requests.  Every function
that the module gets was made at one of the requests, for the emitter that had the module then.
-/

namespace Provision

/-! ## Visits -/

/-- A request that a provider is asked. -/
structure Visit where
  provider : Provider
  wanted : Request

namespace Visit

/-- The emitter through which the request is made. -/
def unit (visit : Visit) : CompilationUnit :=
  visit.provider.unit

def primitive (visit : Visit) : Primitive :=
  visit.wanted.primitive visit.provider.config visit.unit.name

def answer (visit : Visit) : Except Stop FuncId :=
  (Provider.request visit.wanted).answer visit.provider

def after (visit : Visit) : Provider :=
  (Provider.request visit.wanted).leaves visit.provider

def service (visit : Visit) : Service :=
  .ofRequest visit.wanted visit.provider

/-- A function is made at a visit: it is there afterwards and was not before. -/
structure Makes (visit : Visit) (id : FuncId) : Prop where
  before : visit.unit.module.declaration? id = none
  after : exists declaration, visit.after.unit.module.declaration? id = some declaration

/-- What a request asks for, as a signature of the emitter through which it is made. -/
def signature (visit : Visit) : MachineSignature :=
  visit.unit.signature (visit.primitive.sig visit.unit.timeLayout)

end Visit

/-! ## Tenures -/

/-- Emitters have a module in turn, and providers that they lend it to are asked the visits. -/
inductive Tenure (first : CompilationUnit) : List Visit -> Holder -> Prop where
  | start : Tenure first [] (.emitter first)
  | lend {visits : List Visit} {holder : Holder} (h : Tenure first visits holder)
      (config : Config) : Tenure first visits (.provider (.start holder.unit config))
  | serve {visits : List Visit} {provider : Provider}
      (h : Tenure first visits (.provider provider)) (wanted : Request) :
      Tenure first (visits ++ [{ provider := provider, wanted := wanted }])
        (.provider ((Provider.request wanted).leaves provider))
  | rewrap {visits : List Visit} {holder : Holder} (h : Tenure first visits holder)
      (name : String) (target : Target) (layout : TimeLayout) :
      Tenure first visits (.emitter ((holder.unit.rewrap name target).withTimeLayout layout))

namespace Tenure

variable {first : CompilationUnit} {visits : List Visit} {holder : Holder}

theorem history (h : Tenure first visits holder) :
    History first (visits.map Visit.service) holder := by
  induction h with
  | start => exact .start
  | lend _ config ih => exact ih.lend config
  | serve _ wanted ih =>
      rw [List.map_append]
      exact ih.serve wanted
  | rewrap _ name target layout ih => exact ih.rewrap [] name target layout

end Tenure

/-! ## Where functions come from -/

/-- A function of a module was made at a visit, for the emitter through which the request was
made. -/
structure Visit.Authors (visit : Visit) (module : Module) (id : FuncId)
    (declaration : Declaration) : Prop where
  makes : visit.Makes id
  made : exists (plan : Plan) (unit : CompilationUnit),
    plan.Authors unit module declaration ∧ visit.unit.Appends unit

namespace Tenure

variable {first : CompilationUnit} {visits : List Visit} {holder : Holder}

theorem exists_author (h : Tenure first visits holder) (hfirst : first.module.functions = []) :
    forall id declaration, holder.unit.module.declaration? id = some declaration ->
      exists visit, visit ∈ visits ∧ visit.Authors holder.unit.module id declaration := by
  induction h with
  | start =>
      intro id declaration hdeclaration
      rw [Holder.unit, Module.declaration?, hfirst] at hdeclaration
      cases hdeclaration
  | lend _ config ih => exact ih
  | rewrap _ name target layout ih => exact ih
  | @serve visits provider h wanted ih =>
      intro id declaration hdeclaration
      have hcoherent : provider.Coherent := h.history.account.right
      have hserves := hcoherent.request_serves wanted
      have happends := (Provider.always_request wanted provider hcoherent).left.unit.module
      let visit : Visit := { provider := provider, wanted := wanted }
      cases hold : provider.unit.module.declaration? id with
      | some old =>
          have hstill := happends.declaration? hold
          have hafter : ((Provider.request wanted).leaves provider).unit.module.declaration? id =
            some declaration := hdeclaration
          rw [hstill] at hafter
          cases hafter
          rcases ih id declaration hold with ⟨author, hauthor, hmakes, plan, unit, hauthors, hunit⟩
          exact ⟨author, List.mem_append_left _ hauthor, hmakes, plan, unit,
            ⟨hauthors.regards, hauthors.yields, hauthors.appends.trans happends⟩, hunit⟩
      | none =>
          rcases hserves.authors hcoherent hold hdeclaration with ⟨plan, unit, hauthors, hunit⟩
          exact ⟨visit, List.mem_append_right _ (List.mem_singleton_self visit),
            ⟨hold, declaration, hdeclaration⟩, plan, unit, hauthors, hunit⟩

theorem authored (h : Tenure first visits holder) (hfirst : first.module.functions = []) :
    holder.unit.module.Authored := by
  intro id declaration hdeclaration
  rcases h.exists_author hfirst id declaration hdeclaration with
    ⟨_, _, _, plan, unit, hauthors, _⟩
  exact ⟨plan, unit, hauthors⟩

end Tenure
end Provision
