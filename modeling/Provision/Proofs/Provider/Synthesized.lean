import Provision.Proofs.Code.Ending
import Provision.Proofs.Provider.Requests

/-!
# Synthesized functions

A function that a provider made when it was asked for it has the code of its body, in every program
that keeps the code.
-/

namespace Provision

/-- A program keeps the code of a function that was new when a provider answered it. -/
def Executable.Synthesized {σ : Type} (program : Executable σ) (id : FuncId)
    (asked : Action Provider FuncId) : Prop :=
  exists (before after : Provider) (made kept : Declaration),
    asked before = .ok id after ∧ before.unit.module.declaration? id = none ∧
      after.unit.module.declaration? id = some made ∧
        program.module.declaration? id = some kept ∧ kept.code = made.code

/-- A provider answers a function that is new, and a program keeps the code that it gets. -/
def Executable.KeepsCode {σ : Type} (program : Executable σ) (before : Provider)
    (asked : Action Provider FuncId) (id : FuncId) (procedure : Procedure) : Prop :=
  asked.answer before = .ok id ∧ before.unit.module.declaration? id = none ∧
    ((asked.leaves before).unit.module.declaration? id).bind Declaration.code = some procedure ∧
      (program.module.declaration? id).bind Declaration.code = some procedure

instance {σ : Type} (program : Executable σ) (before : Provider)
    (asked : Action Provider FuncId) (id : FuncId) (procedure : Procedure) :
    Decidable (program.KeepsCode before asked id procedure) :=
  inferInstanceAs (Decidable (_ ∧ _))

theorem Executable.KeepsCode.synthesized {σ : Type} {program : Executable σ} {before : Provider}
    {asked : Action Provider FuncId} {id : FuncId} {procedure : Procedure}
    (h : program.KeepsCode before asked id procedure) : program.Synthesized id asked := by
  rcases h with ⟨hanswer, hnew, hmade, hkept⟩
  rcases Option.bind_eq_some_iff.mp hmade with ⟨made, hdeclared, hcode⟩
  rcases Option.bind_eq_some_iff.mp hkept with ⟨kept, hfound, hstill⟩
  exact ⟨before, asked.leaves before, made, kept, Action.eq_ok_of_answer hanswer, hnew, hdeclared,
    hfound, hstill.trans hcode.symm⟩

namespace Provider

variable {symbol : Symbol} {make : Action CompilationUnit FuncId} {before after : Provider}
  {id : FuncId} {made : Declaration}

theorem obtain_new (hrun : obtain symbol make before = .ok id after)
    (hnew : before.unit.module.declaration? id = none)
    (hmade : after.unit.module.declaration? id = some made) :
    before.unit.lookup? symbol.name = none ∧ make before.unit = .ok id after.unit := by
  cases hfind : before.registry.find? symbol with
  | some found =>
      rw [obtain_of_registered hfind] at hrun
      cases hrun
      rw [hnew] at hmade
      cases hmade
  | none =>
      cases hlookup : before.unit.lookup? symbol.name with
      | some found =>
          rw [obtain_of_known hfind hlookup] at hrun
          cases hrun
          rw [hnew] at hmade
          cases hmade
      | none =>
          cases hmake : make before.unit with
          | error stop unit =>
              rw [obtain_of_stopped hfind hlookup hmake] at hrun
              cases hrun
          | ok found unit =>
              rw [obtain_of_made hfind hlookup hmake] at hrun
              cases hrun
              exact ⟨rfl, rfl⟩

/-- A function that is new has the code that its body is compiled to. -/
theorem code_of_define {unit after : CompilationUnit} {name : String} {sig : Signature}
    {linkage : Linkage} {body : Body} (hfree : unit.lookup? name = none)
    (hlinkage : linkage.isDefinable = true)
    (hdefine : CompilationUnit.define name sig linkage body unit = .ok id after)
    (hmade : after.module.declaration? id = some made) :
    exists procedure, unit.procedure name sig body = .ok procedure ∧
      made.code = some procedure := by
  rcases CompilationUnit.define_eq_ok hfree hlinkage hdefine with
    ⟨procedure, hprocedure, rfl, hmodule⟩
  refine ⟨procedure, hprocedure, ?_⟩
  rw [hmodule] at hmade
  have hpushed := Module.declaration?_push_self unit.module
    { name := name, linkage := linkage, signature := unit.signature sig, code := some procedure }
  rw [hpushed] at hmade
  cases hmade
  rfl

theorem kernel_new {wanted : Kernel} {element : DataType}
    (hrun : kernel wanted element .module before = .ok id after)
    (hnew : before.unit.module.declaration? id = none)
    (hmade : after.unit.module.declaration? id = some made) :
    exists (unit : CompilationUnit) (name : String) (procedure : Procedure),
      unit.procedure name (wanted.signature element) (Routine.kernel wanted element) =
          .ok procedure ∧
        made.code = some procedure := by
  unfold kernel Generic.kernel at hrun
  cases hsymbol : wanted.symbol element .module with
  | error fault =>
      rw [hsymbol] at hrun
      cases hrun
  | ok symbol =>
      rw [hsymbol] at hrun
      rcases obtain_new hrun hnew hmade with ⟨hfree, hmake⟩
      let told : CompilationUnit :=
        { before.unit with
          log := before.unit.log ++ [.synthesizing symbol.name wanted element] }
      have hdefine : CompilationUnit.define symbol.name (wanted.signature element) .internal
          (Routine.kernel wanted element) told = .ok id after.unit := hmake
      exact ⟨told, symbol.name, code_of_define hfree rfl hdefine hmade⟩

theorem dot_new {element : DotElement} (hrun : dot element before = .ok id after)
    (hnew : before.unit.module.declaration? id = none)
    (hmade : after.unit.module.declaration? id = some made) :
    exists (unit : CompilationUnit) (name : String) (procedure : Procedure),
      unit.procedure name element.signature (Routine.dot element.type) = .ok procedure ∧
        made.code = some procedure := by
  have hrun : synthesized (element.symbol before.unit.name) element.signature .exported
      (Routine.dot element.type) before = .ok id after := hrun
  rcases obtain_new hrun hnew hmade with ⟨hfree, hdefine⟩
  exact ⟨before.unit, _, code_of_define hfree rfl hdefine hmade⟩

/-- A kernel under a free name is made, if its body is accepted. -/
theorem kernel_of_free (provider : Provider) {wanted : Kernel} {element : DataType}
    {procedure : Procedure} (hsymbol : wanted.symbol element .module = .ok symbol)
    (hregistry : provider.registry.find? symbol = none)
    (hfree : provider.unit.lookup? symbol.name = none)
    (hdata : symbol.name ∉ provider.unit.module.data)
    (hprocedure : forall unit : CompilationUnit,
      unit.procedure symbol.name (wanted.signature element) (Routine.kernel wanted element) =
        .ok procedure)
    (hfits : StackSlot.fitFrame procedure.slots = true) :
    exists after,
      kernel wanted element .module provider =
          .ok { index := provider.unit.module.functions.length } after ∧
        after.unit.module = provider.unit.module.push
          { name := symbol.name, linkage := .internal,
            signature := provider.unit.signature (wanted.signature element),
            code := some procedure } := by
  let told : CompilationUnit :=
    { provider.unit with
      log := provider.unit.log ++ [.synthesizing symbol.name wanted element] }
  have hfreeTold : told.lookup? symbol.name = none := hfree
  have hdefine : CompilationUnit.define symbol.name (wanted.signature element) .internal
      (Routine.kernel wanted element) told = .ok _ _ :=
    CompilationUnit.define_of_free (hprocedure told) hfreeTold hdata rfl hfits
  unfold kernel Generic.kernel
  rw [hsymbol]
  exact ⟨_, obtain_of_made hregistry hfree hdefine, rfl⟩

end Provider

/-! ## Code of synthesized functions -/

namespace Executable

variable {σ : Type} {program : Executable σ} {id : FuncId} {procedure : Procedure}

theorem procedure?_of_code {declaration : Declaration}
    (hdeclaration : program.module.declaration? id = some declaration)
    (hcode : declaration.code = some procedure) : program.procedure? id = some procedure := by
  rw [procedure?, hdeclaration]
  exact hcode

/-- A synthesized kernel has what its body is compiled to everywhere. -/
theorem Synthesized.procedure?_kernel {wanted : Kernel} {element : DataType}
    (hmade : program.Synthesized id (Provider.kernel wanted element .module))
    (hprocedure : forall (unit : CompilationUnit) (name : String),
      unit.procedure name (wanted.signature element) (Routine.kernel wanted element) =
        .ok procedure) :
    program.procedure? id = some procedure := by
  rcases hmade with ⟨before, after, made, kept, hrun, hnew, hdeclared, hkept, hcode⟩
  rcases Provider.kernel_new hrun hnew hdeclared with ⟨unit, name, found, hfound, hmadeCode⟩
  rw [hprocedure] at hfound
  cases hfound
  exact procedure?_of_code hkept (hcode.trans hmadeCode)

theorem Synthesized.procedure?_dot {element : DotElement}
    (hmade : program.Synthesized id (Provider.dot element))
    (hprocedure : forall (unit : CompilationUnit) (name : String),
      unit.procedure name element.signature (Routine.dot element.type) = .ok procedure) :
    program.procedure? id = some procedure := by
  rcases hmade with ⟨before, after, made, kept, hrun, hnew, hdeclared, hkept, hcode⟩
  rcases Provider.dot_new hrun hnew hdeclared with ⟨unit, name, found, hfound, hmadeCode⟩
  rw [hprocedure] at hfound
  cases hfound
  exact procedure?_of_code hkept (hcode.trans hmadeCode)

end Executable
end Provision
