import Provision.Proofs.Provider.Acceptance
import Provision.Proofs.Provider.Requests

/-!
# Modules that go by plan

A module that only providers have filled holds one function for each plan that has been carried out,
made as planned.  Every request that is supported is answered, and carries out its plans.
-/

namespace Provision

namespace Plan

/-- The callees go by their names in a unit, under the given numbers. -/
def Resolves (plan : Plan) (unit : CompilationUnit) (number : FuncId -> FuncId) : Prop :=
  forall place outline, plan.callees[place.index]? = some outline ->
    unit.lookup? outline.symbol.name = some (number place)

/-- A declaration is what a plan has been made to. -/
def Made (plan : Plan) (unit : CompilationUnit) (declaration : Declaration) : Prop :=
  exists number, plan.Resolves unit number ∧ declaration = plan.declaration unit number

theorem made_of_callees_nil {plan : Plan} (unit : CompilationUnit) (h : plan.callees = []) :
    plan.Made unit (plan.declaration unit id) := by
  refine ⟨id, ?_, rfl⟩
  intro place outline hplace
  rw [h] at hplace
  cases hplace

end Plan

namespace CompilationUnit

/-- What a primitive takes in a unit. -/
abbrev plansOf (unit : CompilationUnit) (primitive : Primitive) : List Plan :=
  primitive.plans (ClockOrigin.ofTarget unit.target) unit.timeLayout

/-- The plan regards a unit's clock and time layout. -/
abbrev Regards (unit : CompilationUnit) (plan : Plan) : Prop :=
  plan.Regular (ClockOrigin.ofTarget unit.target) unit.timeLayout

theorem regards_of_appends {before after : CompilationUnit} {plan : Plan}
    (h : before.Appends after) (hregular : before.Regards plan) : after.Regards plan := by
  rw [Regards, h.target, h.timeLayout]
  exact hregular

/-- A unit holds what the plans have been made to, and nothing else. -/
structure Planned (plans : List Plan) (unit : CompilationUnit) : Prop where
  data : unit.module.data = []
  nodup : unit.module.names.Nodup
  regular : forall plan, plan ∈ plans -> unit.Regards plan
  known : forall plan, plan ∈ plans -> plan.symbol.name ∈ unit.module.names
  made : forall declaration, declaration ∈ unit.module.functions ->
    exists plan, plan ∈ plans ∧ plan.Made unit declaration

namespace Planned

variable {plans : List Plan} {unit : CompilationUnit} {plan : Plan}

theorem empty (hdata : unit.module.data = []) (hfunctions : unit.module.functions = []) :
    Planned [] unit where
  data := hdata
  nodup := by simp [Module.names, hfunctions]
  regular := by simp
  known := by simp
  made := by simp [hfunctions]

theorem alike {other : CompilationUnit} (h : Planned plans unit) (halike : unit.Alike other) :
    Planned plans other := by
  rcases halike with ⟨log, rfl⟩
  exact ⟨h.data, h.nodup, h.regular, h.known, h.made⟩

theorem append_known {more : List Plan} (h : Planned plans unit)
    (hregular : forall plan, plan ∈ more -> unit.Regards plan)
    (hknown : forall plan, plan ∈ more -> plan.symbol.name ∈ unit.module.names) :
    Planned (plans ++ more) unit where
  data := h.data
  nodup := h.nodup
  regular := by
    intro plan hplan
    exact (List.mem_append.mp hplan).elim (h.regular plan) (hregular plan)
  known := by
    intro plan hplan
    exact (List.mem_append.mp hplan).elim (h.known plan) (hknown plan)
  made := by
    intro declaration hdeclaration
    rcases h.made declaration hdeclaration with ⟨plan, hplan, hmade⟩
    exact ⟨plan, List.mem_append_left more hplan, hmade⟩

theorem push {declaration : Declaration} (h : Planned plans unit) (hregular : unit.Regards plan)
    (hfree : unit.lookup? plan.symbol.name = none) (hmade : plan.Made unit declaration)
    (log : Log) :
    Planned (plans ++ [plan])
      { unit with module := unit.module.push declaration, log := log } := by
  have hgrows := Module.grows_push unit.module declaration
  have hname : declaration.name = plan.symbol.name := by
    rcases hmade with ⟨_, _, rfl⟩
    rfl
  have hnames : (unit.module.push declaration).names = unit.module.names ++ [plan.symbol.name] := by
    rw [Module.names_push, hname]
  have hstill : forall other : Plan, forall old, other.Made unit old ->
      other.Made { unit with module := unit.module.push declaration, log := log } old := by
    rintro other old ⟨found, hfound, rfl⟩
    exact ⟨found, fun place outline hplace => hgrows.lookup? (hfound place outline hplace), rfl⟩
  exact
    { data := h.data
      nodup := Module.nodup_names_push h.nodup (hname ▸ Module.lookup?_eq_none_iff.mp hfree)
      regular := by
        intro other hother
        rcases List.mem_append.mp hother with hold | hnew
        · exact h.regular other hold
        · rw [List.mem_singleton.mp hnew]
          exact hregular
      known := by
        intro other hother
        rw [hnames]
        rcases List.mem_append.mp hother with hold | hnew
        · exact List.mem_append_left _ (h.known other hold)
        · rw [List.mem_singleton.mp hnew]
          exact List.mem_append_right _ (List.mem_singleton_self _)
      made := by
        intro found hfound
        rcases List.mem_append.mp hfound with hold | hnew
        · rcases h.made found hold with ⟨other, hother, hmadeOther⟩
          exact ⟨other, List.mem_append_left _ hother, hstill other found hmadeOther⟩
        · rw [List.mem_singleton.mp hnew]
          exact ⟨plan, List.mem_append_right _ (List.mem_singleton_self plan),
            hstill plan declaration hmade⟩ }

theorem made_of_lookup? {id : FuncId} (h : Planned plans unit) (hregular : unit.Regards plan)
    (hlookup : unit.lookup? plan.symbol.name = some id) :
    exists declaration, unit.module.declaration? id = some declaration ∧
      plan ∈ plans ∧ plan.Made unit declaration := by
  rcases Module.name_of_lookup? hlookup with ⟨declaration, hdeclaration, hname⟩
  rcases h.made declaration (List.mem_of_getElem? hdeclaration) with ⟨other, hother, hmade⟩
  -- Whatever has been made under the name was planned for the same symbol, hence alike.
  have hsymbol : other.symbol = plan.symbol := by
    rcases hmade with ⟨_, _, rfl⟩
    exact congrArg Symbol.mk hname
  have hsame := (h.regular other hother).eq_of_symbol hregular hsymbol
  rw [hsame] at hother hmade
  exact ⟨declaration, hdeclaration, hother, hmade⟩

/-- Callees that have been made as planned are declared as outlined. -/
theorem finds {number : FuncId -> FuncId} (h : Planned plans unit)
    (hresolves : plan.Resolves unit number)
    (hcallees : forall outline, outline ∈ plan.callees ->
      exists other, unit.Regards other ∧ other.toOutline = outline) :
    plan.Finds unit number := by
  have hdeclared : forall place outline, plan.callees[place.index]? = some outline ->
      exists declaration, unit.module.declaration? (number place) = some declaration ∧
        declaration.signature = unit.signature outline.sig ∧
          declaration.linkage = outline.linkage := by
    intro place outline hplace
    rcases hcallees outline (List.mem_of_getElem? hplace) with ⟨other, hregular, rfl⟩
    rcases h.made_of_lookup? hregular (hresolves place _ hplace) with
      ⟨_, hdeclaration, _, _, _, rfl⟩
    exact ⟨_, hdeclaration, rfl, rfl⟩
  constructor
  · intro place outline hplace
    rcases hdeclared place outline hplace with ⟨declaration, hdeclaration, hsignature, _⟩
    rw [Module.signature?, hdeclaration, Option.map_some, hsignature]
  · intro place outline hplace
    rcases hdeclared place outline hplace with ⟨declaration, hdeclaration, _, hlinkage⟩
    rw [Module.isFinal, hdeclaration, Option.any_some, hlinkage]

end Planned
end CompilationUnit

namespace Provider

open CompilationUnit

variable {plans : List Plan} {plan : Plan} {provider : Provider}

/-! ## Carrying out one plan -/

/-- An action makes what is planned, under a free name. -/
def Carries (plan : Plan) (unit : CompilationUnit) (make : Action CompilationUnit FuncId) : Prop :=
  unit.lookup? plan.symbol.name = none -> exists id declaration log,
    plan.Made unit declaration ∧
      make unit = .ok id { unit with module := unit.module.push declaration, log := log }

/-- An action answers a function, and leaves a module in which more plans are carried out. -/
abbrev Fulfils (action : Action Provider FuncId) (provider : Provider)
    (plans more : List Plan) : Prop :=
  (exists id, action.answer provider = .ok id) ∧
    Planned (plans ++ more) (action.leaves provider).unit

/-- What is planned is answered, whether it is there or made. -/
theorem obtain_planned {make : Action CompilationUnit FuncId} (h : Planned plans provider.unit)
    (hcoherent : Coherent provider) (hregular : provider.unit.Regards plan)
    (hmakes : Makes plan.symbol.name make) (hcarries : Carries plan provider.unit make) :
    Fulfils (obtain plan.symbol make) provider plans [plan] := by
  cases hlookup : provider.unit.lookup? plan.symbol.name with
  | some id =>
      rcases hcoherent.obtain_known hlookup make with ⟨hanswer, htells⟩
      have hknown := Module.mem_names_of_lookup? hlookup
      refine ⟨⟨id, hanswer⟩, (h.append_known ?_ ?_).alike htells.unit⟩
      · intro other hother
        rw [List.mem_singleton.mp hother]
        exact hregular
      · intro other hother
        rw [List.mem_singleton.mp hother]
        exact hknown
  | none =>
      rcases hcoherent.obtain_free hlookup hmakes with ⟨hanswer, hunit, _, _⟩
      rcases hcarries hlookup with ⟨id, declaration, log, hmade, hmake⟩
      unfold Fulfils
      rw [hanswer, hunit, Action.answer, Action.leaves, hmake]
      exact ⟨⟨id, rfl⟩, h.push hregular hlookup hmade log⟩

theorem imported_planned {symbol : Symbol} {sig : Signature} (h : Planned plans provider.unit)
    (hcoherent : Coherent provider) (hregular : provider.unit.Regards (.imported symbol sig)) :
    Fulfils (imported symbol sig) provider plans [.imported symbol sig] := by
  refine obtain_planned h hcoherent hregular (makes_declareImport symbol.name sig) ?_
  intro hfree
  have hdata : symbol.name ∉ provider.unit.module.data := by simp [h.data]
  exact ⟨_, _, _, Plan.made_of_callees_nil provider.unit rfl, declareImport_of_free hfree hdata⟩

/-- A body is defined as planned, over callees that have been made as planned. -/
theorem carries_define {body : Body} {number : FuncId -> FuncId} {unit : CompilationUnit}
    (h : Planned plans unit) (hregular : unit.Regards plan) (hbody : plan.body = some body)
    (hresolves : plan.Resolves unit number)
    (hcallees : forall outline, outline ∈ plan.callees ->
      exists other, unit.Regards other ∧ other.toOutline = outline) :
    Carries plan unit
      (CompilationUnit.define plan.symbol.name plan.sig plan.linkage (body.renumber number)) := by
  intro hfree
  have haccepted := hregular.isAccepted
  have hlinkage := (haccepted.spec hbody).left
  have hdata : plan.symbol.name ∉ unit.module.data := by simp [h.data]
  rcases Plan.procedure_eq haccepted hbody unit (h.finds hresolves hcallees) with
    ⟨procedure, hplanned, hfits, hprocedure⟩
  have hdeclaration : plan.declaration unit number =
      { name := plan.symbol.name, linkage := plan.linkage, signature := unit.signature plan.sig,
        code := some (procedure.renumber number) } := by
    rw [Plan.declaration, hplanned, Option.map_some]
  have hdefine := define_of_free hprocedure hfree hdata hlinkage hfits
  rw [← hdeclaration] at hdefine
  exact ⟨_, _, _, ⟨number, hresolves, rfl⟩, hdefine⟩

theorem carries_simple {symbol : Symbol} {linkage : Linkage} {sig : Signature} {body : Body}
    {unit : CompilationUnit} (h : Planned plans unit)
    (hregular : unit.Regards (.simple symbol linkage sig body)) :
    Carries (.simple symbol linkage sig body) unit
      (CompilationUnit.define symbol.name sig linkage body) := by
  have hresolves : (Plan.simple symbol linkage sig body).Resolves unit id := by
    intro place outline hplace
    cases hplace
  have hcarries := carries_define h hregular rfl hresolves fun _ houtline => by cases houtline
  rw [Body.renumber_id] at hcarries
  exact hcarries

theorem simple_planned {symbol : Symbol} {linkage : Linkage} {sig : Signature} {body : Body}
    (h : Planned plans provider.unit) (hcoherent : Coherent provider)
    (hregular : provider.unit.Regards (.simple symbol linkage sig body)) :
    Fulfils (synthesized symbol sig linkage body) provider plans
      [.simple symbol linkage sig body] := by
  have hlinkage := (hregular.isAccepted.spec rfl).left
  exact obtain_planned h hcoherent hregular (makes_define symbol.name sig body hlinkage)
    (carries_simple h hregular)

end Provider
end Provision
