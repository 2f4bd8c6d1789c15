import Provision.Module.CompilationUnit
import Provision.Proofs.Script.Renumber

/-!
# Compiling portable bodies

A body without native integers is compiled to the same procedure in every compilation unit, as far
as the functions that it calls have the same signatures.  So it is enough to compile it once.
-/

namespace Provision

/-! ## Checking -/

section Checking

variable {slots : List StackSlot} {signatureOf? other? : FuncId -> Option MachineSignature}

theorem Instruction.check_congr {instruction : Instruction} (scope : Scope)
    (h : CallsAgree signatureOf? other? [instruction]) :
    instruction.check { slots := slots, signatureOf? := signatureOf? } scope =
      instruction.check { slots := slots, signatureOf? := other? } scope := by
  cases instruction
  case call results callee arguments =>
      have hcallee := h results callee arguments (List.mem_singleton_self _)
      simp only [Instruction.check, Instruction.fits, Instruction.resultTypes, hcallee]
  all_goals rfl

theorem Instruction.checkAll_congr {instructions : List Instruction} (scope : Scope)
    (h : CallsAgree signatureOf? other? instructions) :
    Instruction.checkAll { slots := slots, signatureOf? := signatureOf? } scope instructions =
      Instruction.checkAll { slots := slots, signatureOf? := other? } scope instructions := by
  induction instructions generalizing scope with
  | nil => rfl
  | cons first rest ih =>
      have hfirst : CallsAgree signatureOf? other? [first] :=
        h.mono fun instruction hmem => by simp [List.mem_singleton.mp hmem]
      have hrest : CallsAgree signatureOf? other? rest :=
        h.mono fun instruction hmem => List.mem_cons_of_mem first hmem
      simp only [Instruction.checkAll, Instruction.check_congr scope hfirst, ih _ hrest]

theorem Region.check_congr {code : Code} (scope : Scope)
    (h : Instruction.CallsAgree signatureOf? other? code.instructions) :
    Region.check { slots := slots, signatureOf? := signatureOf? } code scope =
      Region.check { slots := slots, signatureOf? := other? } code scope := by
  induction code generalizing scope with
  | done => rfl
  | step first rest ih =>
      rcases Region.callsAgree_step h with ⟨hfirst, hrest⟩
      simp only [Region.check, Instruction.check_congr scope hfirst, ih _ hrest]
  | loop head body rest ihBody ihRest =>
      rcases Region.callsAgree_loop h with ⟨hhead, hbody, hrest⟩
      simp only [Region.check, Instruction.checkAll_congr _ hhead, ihBody _ hbody, ihRest _ hrest]

theorem Procedure.check_congr {procedure : Procedure}
    (h : forall callee, callee ∈ procedure.code.callees ->
      signatureOf? callee = other? callee) :
    procedure.check signatureOf? = procedure.check other? := by
  simp only [Procedure.check, Procedure.surroundings, Region.check_congr _ (Region.callsAgree h)]

end Checking

/-! ## Compiling -/

namespace CompilationUnit

theorem signature_of_reference (unit : CompilationUnit) {sig : Signature}
    (called : Option MachineSignature) (h : .native ∉ sig.params ++ sig.returns.toList) :
    unit.signature sig = (Site.reference sig called).signature := by
  have hlower : forall type, type ∈ sig.params ++ sig.returns.toList ->
      unit.lowering.lower type = Lowering.lower { pointer := .i64, native := .i32 } type := by
    intro type htype
    cases type
    case native => exact absurd htype h
    all_goals rfl
  simp only [CompilationUnit.signature, Lowering.signature, Site.reference,
    MachineSignature.mk.injEq]
  constructor
  · exact List.map_congr_left fun type h => hlower type (List.mem_append_left _ h)
  · exact List.map_congr_left fun type h => hlower type (List.mem_append_right _ h)

/-- A body without native integers needs compiling only once, at the site of reference, to know
what every unit compiles it to. -/
theorem procedure_of_reference (unit : CompilationUnit) (name : String) {sig : Signature}
    {body : Body} {called : Option MachineSignature} {built compiled : Procedure}
    (hsig : .native ∉ sig.params ++ sig.returns.toList)
    (hportable : .native ∉ body.script.types)
    (hscript : forall callee, callee ∈ body.script.callees ->
      unit.module.signature? callee = called)
    (hcode : forall callee, callee ∈ built.code.callees ->
      unit.module.signature? callee = called)
    (hbuild : (body.build (Site.reference sig called)).1.toOption = some built)
    (hcheck : (built.check fun _ => called).toOption = some true)
    (hfuse : built.fuse = compiled) :
    unit.procedure name sig body =
      .ok { compiled with near := compiled.near.filter unit.module.isFinal } := by
  have halike : Site.Alike body.script.callees (unit.site sig) (Site.reference sig called) :=
    { pointer := rfl
      signature := unit.signature_of_reference called hsig
      calls := hscript }
  have hbuilt := Body.build_alike halike hportable (fun _ => rfl) hbuild
  have hchecked : built.check unit.module.signature? = .ok true := by
    rw [Procedure.check_congr hcode]
    cases hresult : built.check fun _ => called with
    | error breach =>
        rw [hresult] at hcheck
        cases hcheck
    | ok fits =>
        rw [hresult] at hcheck
        cases hcheck
        rfl
  have hcheckedNear : Procedure.check
      { built with near := built.near.filter (unit.site sig).isFinal } unit.module.signature? =
        .ok true := hchecked
  simp only [procedure, hbuilt, hcheckedNear]
  rw [← hfuse]
  rfl

theorem procedure_of_callees_nil (unit : CompilationUnit) (name : String) {sig : Signature}
    {body : Body} {built compiled : Procedure}
    (hsig : .native ∉ sig.params ++ sig.returns.toList)
    (hportable : .native ∉ body.script.types) (hscript : body.script.callees = [])
    (hcode : built.code.callees = []) (hnear : compiled.near = [])
    (hbuild : (body.build (Site.reference sig none)).1.toOption = some built)
    (hcheck : (built.check fun _ => none).toOption = some true)
    (hfuse : built.fuse = compiled) :
    unit.procedure name sig body = .ok compiled := by
  have hcompiled := unit.procedure_of_reference name hsig hportable
    (by simp [hscript]) (by simp [hcode]) hbuild hcheck hfuse
  rw [hcompiled, hnear, List.filter_nil]
  rw [← hnear]

end CompilationUnit

/-! ## Compiling once for all numbers -/

/-- What a body without native integers is compiled to where every function that it calls has one
signature and is near. -/
def Body.compiled? (body : Body) (sig : Signature) (called : Option MachineSignature) :
    Option Procedure :=
  if .native ∈ sig.params ++ sig.returns.toList ++ body.script.types then none
  else
    match (body.build (Site.reference sig called)).1 with
    | .error _ => none
    | .ok built =>
        if (built.check fun _ => called).toOption = some true ∧
            built.code.callees ⊆ body.script.callees then some built.fuse
        else none

/-- A body that has been compiled is compiled alike in every unit in which the functions that it
calls go by other numbers. -/
theorem CompilationUnit.procedure_of_compiled (unit : CompilationUnit) (name : String)
    {sig : Signature} {body : Body} {called : Option MachineSignature} {compiled : Procedure}
    (number : FuncId -> FuncId) (hcompiled : body.compiled? sig called = some compiled)
    (hcalls : forall callee, callee ∈ body.script.callees ->
      unit.module.signature? (number callee) = called) :
    unit.procedure name sig (body.renumber number) =
      .ok
        { compiled.renumber number with
          near := (compiled.near.map number).filter unit.module.isFinal } := by
  unfold Body.compiled? at hcompiled
  split at hcompiled
  · cases hcompiled
  · rename_i hnative
    simp only [List.mem_append, not_or] at hnative
    cases hbuild : (body.build (Site.reference sig called)).1 with
    | error stop =>
        rw [hbuild] at hcompiled
        cases hcompiled
    | ok built =>
        rw [hbuild] at hcompiled
        simp only [Option.ite_none_right_eq_some, Option.some.injEq] at hcompiled
        rcases hcompiled with ⟨⟨hcheck, hcallees⟩, rfl⟩
        have hbuilt : ((body.renumber number).build (Site.reference sig called)).1.toOption =
            some (built.renumber number) := by
          rw [Body.build_renumber number (fun callee _ => rfl) (fun _ => rfl) hbuild]
          rfl
        have hchecked : ((built.renumber number).check fun _ => called).toOption = some true := by
          rw [Procedure.check_renumber]
          exact hcheck
        have hportable : .native ∉ (body.renumber number).script.types := by
          rw [Body.renumber, Script.types_renumber]
          exact hnative.right
        refine unit.procedure_of_reference name ?_ hportable ?_ ?_ hbuilt hchecked
          (Procedure.fuse_renumber number built)
        · simp only [List.mem_append, not_or]
          exact hnative.left
        · intro callee hcallee
          rw [Body.renumber, Script.callees_renumber, List.mem_map] at hcallee
          rcases hcallee with ⟨place, hplace, rfl⟩
          exact hcalls place hplace
        · intro callee hcallee
          rw [Procedure.renumber, Region.callees_renumber, List.mem_map] at hcallee
          rcases hcallee with ⟨place, hplace, rfl⟩
          exact hcalls place (hcallees hplace)

/-- A body that has been compiled and calls nothing is compiled alike in every unit. -/
theorem CompilationUnit.procedure_of_compiled_alone (unit : CompilationUnit) (name : String)
    {sig : Signature} {body : Body} {compiled : Procedure}
    (hcompiled : body.compiled? sig none = some compiled) (hscript : body.script.callees = [])
    (hnear : compiled.near = []) : unit.procedure name sig body = .ok compiled := by
  unfold Body.compiled? at hcompiled
  split at hcompiled
  · cases hcompiled
  · rename_i hnative
    rw [List.mem_append, not_or] at hnative
    cases hbuild : (body.build (Site.reference sig none)).1 with
    | error stop =>
        rw [hbuild] at hcompiled
        cases hcompiled
    | ok built =>
        rw [hbuild] at hcompiled
        simp only [Option.ite_none_right_eq_some, Option.some.injEq] at hcompiled
        rcases hcompiled with ⟨⟨hcheck, hcallees⟩, hfuse⟩
        rw [hscript] at hcallees
        exact unit.procedure_of_callees_nil name hnative.left hnative.right hscript
          (List.subset_nil.mp hcallees) hnear (congrArg Except.toOption hbuild) hcheck hfuse

end Provision
