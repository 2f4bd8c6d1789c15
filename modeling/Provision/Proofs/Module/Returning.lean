import Provision.Proofs.Code.Trace
import Provision.Proofs.Code.Typed
import Provision.Proofs.Module.Lasting
import Provision.Proofs.Script.Outcome

/-!
# As many results as declared

Whoever calls a function of a module gets as many values as the function is declared to return.
Code is checked for it before it becomes a function's, and of what a host function returns a caller
reads as many values as it expects.
-/

namespace Provision

/-! ## Modules -/

/-- A function that has code returns as many values as it is declared to. -/
def Declaration.Balanced (declaration : Declaration) : Prop :=
  forall procedure, declaration.code = some procedure ->
    procedure.results.length = declaration.signature.returns.length

namespace Module

def Balanced (module : Module) : Prop :=
  forall id declaration, module.declaration? id = some declaration -> declaration.Balanced

theorem balanced_empty : empty.Balanced := by
  intro id declaration hdeclaration
  cases hdeclaration

namespace Balanced

variable {module : Module}

theorem push (h : module.Balanced) {declaration : Declaration} (hpushed : declaration.Balanced) :
    (module.push declaration).Balanced := by
  intro id other hother
  rcases declaration?_push_cases hother with hold | ⟨_, rfl⟩
  · exact h id other hold
  · exact hpushed

theorem update (h : module.Balanced) {id : FuncId} {change : Declaration -> Declaration}
    (hchange : forall old, module.declaration? id = some old -> (change old).Balanced) :
    (module.update id change).Balanced := by
  intro other declaration hdeclaration
  by_cases heq : other = id
  · subst heq
    rw [declaration?_update_self, Option.map_eq_some_iff] at hdeclaration
    rcases hdeclaration with ⟨old, hold, rfl⟩
    exact hchange old hold
  · rw [declaration?_update_of_ne module change heq] at hdeclaration
    exact h other declaration hdeclaration

theorem declare (h : module.Balanced) (name : String) (linkage : Linkage)
    (signature : MachineSignature) :
    ((Module.declare name linkage signature).leaves module).Balanced := by
  rcases leaves_declare_cases module name linkage signature with
    hsame | ⟨id, hmerged⟩ | ⟨_, _, hpushed⟩
  · rw [hsame]
    exact h
  · rw [hmerged]
    exact h.update (h id)
  · rw [hpushed]
    apply h.push
    intro procedure hcode
    cases hcode

theorem define (h : module.Balanced) {id : FuncId} {procedure : Procedure}
    (hcount : forall old, module.declaration? id = some old ->
      procedure.results.length = old.signature.returns.length) (name : String) :
    ((Module.define name id procedure).leaves module).Balanced := by
  rcases leaves_define_cases module name id procedure with hsame | ⟨_, _, _, hcompleted⟩
  · rw [hsame]
    exact h
  · rw [hcompleted]
    apply h.update
    intro old hold found hfound
    cases hfound
    exact hcount old hold

end Balanced
end Module

/-! ## Compilation units -/

namespace CompilationUnit

variable {unit : CompilationUnit} {name : String} {sig : Signature} {linkage : Linkage}
  {body : Body}

/-- A procedure that is accepted returns as many values as its signature says. -/
theorem length_results_of_procedure {procedure : Procedure}
    (h : unit.procedure name sig body = .ok procedure) :
    procedure.results.length = (unit.signature sig).returns.length := by
  rcases procedure_eq_ok h with ⟨_, hbuild, hcheck, rfl⟩
  rcases Body.build_eq_ok hbuild with ⟨code, results, builder, _, rfl⟩
  rcases Procedure.of_check hcheck with ⟨scope, _, _, _, htypes⟩
  have hlength := congrArg List.length htypes
  rw [List.length_map] at hlength
  exact hlength

theorem balanced_define (h : unit.module.Balanced) :
    ((define name sig linkage body).leaves unit).module.Balanced := by
  unfold define
  rw [Action.leaves_get_bind]
  cases hprocedure : unit.procedure name sig body with
  | error stop => exact h
  | ok procedure =>
      have hdeclared := h.declare name linkage (unit.signature sig)
      simp only [onModule, Action.leaves_bind, Action.leaves_onPart, Action.answer_onPart]
      cases hid : (Module.declare name linkage (unit.signature sig)).answer unit.module with
      | error stop => exact hdeclared
      | ok id =>
          have hrun := Action.eq_ok_of_answer hid
          rcases (Module.declare_eq_ok hrun).right with ⟨declaration, hfound, _, hsignature⟩
          have hcount : forall old,
              ((Module.declare name linkage (unit.signature sig)).leaves unit.module).declaration?
                id = some old -> procedure.results.length = old.signature.returns.length := by
            intro old hold
            rw [hfound] at hold
            cases hold
            rw [hsignature]
            exact length_results_of_procedure hprocedure
          have hdefined := hdeclared.define hcount name
          simp only
          cases (Module.define name id procedure).answer
              ((Module.declare name linkage (unit.signature sig)).leaves unit.module) with
          | error stop => exact hdefined
          | ok _ => exact hdefined

theorem Step.balanced {before after : CompilationUnit} (h : Step before after)
    (hbefore : before.module.Balanced) : after.module.Balanced := by
  cases h with
  | tell event _ => exact hbefore
  | declare name sig =>
      cases hlookup : before.lookup? name with
      | some id =>
          rw [Action.leaves, declareImport_of_known hlookup]
          exact hbefore
      | none =>
          by_cases hdata : name ∈ before.module.data
          · rw [Action.leaves, declareImport_of_data hlookup hdata]
            exact hbefore
          · have hrun : declareImport name sig before = _ := declareImport_of_free hlookup hdata
            rw [Action.leaves_of_ok hrun]
            apply hbefore.push
            intro procedure hcode
            cases hcode
  | define name sig linkage body => exact balanced_define hbefore
  | declareData name =>
      unfold CompilationUnit.declareData Module.declareData
      split
      · exact hbefore
      · exact hbefore
  | rewrap name target layout => exact hbefore

theorem Passes.balanced {first last : CompilationUnit} (h : Passes first last)
    (hfirst : first.module.Balanced) : last.module.Balanced := by
  induction h with
  | refl => exact hfirst
  | tail _ hstep ih => exact hstep.balanced ih

end CompilationUnit

/-! ## Programs -/

theorem Convention.length_read {types : List MachineType} {values read : List Scalar}
    (h : Convention.read types values = some read) : read.length = types.length := by
  induction types generalizing values read with
  | nil =>
      cases h
      rfl
  | cons type types ih =>
      simp only [Convention.read, Option.bind_eq_bind, Option.bind_eq_some_iff,
        Option.some.injEq] at h
      rcases h with ⟨⟨value, others⟩, _, rest, hrest, rfl⟩
      rw [List.length_cons, List.length_cons, ih hrest]

/-- What a function returns is as much as it is declared to, wherever its code is. -/
theorem Executable.length_of_invoke {σ : Type} {program : Executable σ}
    (hbalanced : program.module.Balanced) {id : FuncId} {declaration : Declaration}
    (hdeclaration : program.module.declaration? id = some declaration) {depth : Nat}
    {arguments results : List Scalar} {world after : World σ}
    (h : program.invoke depth id arguments world = some (results, after)) :
    results.length = declaration.signature.returns.length := by
  cases depth with
  | zero => cases h
  | succ depth =>
      simp only [invoke, hdeclaration] at h
      cases hcode : declaration.code with
      | some procedure =>
          rw [hcode] at h
          simp only [Procedure.run, Option.bind_eq_bind, Option.bind_eq_some_iff, Option.some.injEq,
            Prod.mk.injEq] at h
          rcases h with ⟨_, _, values, hvalues, rfl, _⟩
          have hlength := (mapM_eq_some_iff.mp hvalues).length_eq
          rw [← hlength, hbalanced id declaration hdeclaration procedure hcode]
      | none =>
          rw [hcode] at h
          cases hbinding : program.binding? declaration.name with
          | none =>
              rw [hbinding] at h
              cases h
          | some function =>
              rw [hbinding] at h
              simp only [Convention.returning, Option.bind_eq_bind, Option.bind_eq_some_iff,
                Option.some.injEq, Prod.mk.injEq] at h
              rcases h with ⟨_, _, values, hvalues, rfl, _⟩
              exact Convention.length_read hvalues

end Provision
