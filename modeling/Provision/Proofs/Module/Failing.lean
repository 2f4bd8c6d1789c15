import Mathlib.Data.List.Basic
import Provision.Proofs.Module.Declaring
import Provision.Proofs.Script.Outcome

/-!
# Definitions that fail

A definition fails in its body, in the check of its code, or over what the module holds under the
name already.  The module stays as it was in the first two cases.  In the last one nothing but the
declaration of the name itself may have changed, and no function has other code than before.
-/

namespace Provision

/-! ## Conflicts -/

namespace Declaration

/-- A function that is declared once more. -/
def merged (old : Declaration) (linkage : Linkage) : Declaration :=
  { old with linkage := old.linkage.merge linkage }

/-- What stands against a definition of a function that is declared already. -/
def conflict? (old : Declaration) (linkage : Linkage) (signature : MachineSignature) :
    Option Conflict :=
  if old.signature = signature then
    if !(old.merged linkage).linkage.isDefinable then some .importDefinition
    else if (old.merged linkage).code.isSome then some .duplicateDefinition
    else none
  else some .incompatibleSignature

end Declaration

namespace Module

/-- A module refuses a definition over a conflict, and is left as another one. -/
inductive Refuses (before : Module) (name : String) (linkage : Linkage)
    (signature : MachineSignature) : Conflict -> Module -> Prop where
  /-- The name is that of a data object. -/
  | data (hfree : before.lookup? name = none) (hdata : name ∈ before.data) :
      Refuses before name linkage signature .incompatibleDeclaration before
  /-- The name was not known; it is now, as that of an import. -/
  | imported (hfree : before.lookup? name = none) (hdata : name ∉ before.data)
      (hlinkage : linkage = .imported) :
      Refuses before name linkage signature .importDefinition
        (before.push { name := name, linkage := .imported, signature := signature, code := none })
  /-- The name is that of a function, which may have another linkage now. -/
  | known {id : FuncId} {old : Declaration} {conflict : Conflict}
      (hid : before.lookup? name = some id) (hold : before.declaration? id = some old)
      (hconflict : old.conflict? linkage signature = some conflict) :
      Refuses before name linkage signature conflict
        (before.update id fun old => old.merged linkage)

/-- All functions keep their numbers, names, signatures and code, names stand for what they did, and
only the function of one name may have another linkage, or be new and without code. -/
structure Spares (before : Module) (name : String) (after : Module) : Prop where
  declaration : forall id old, before.declaration? id = some old ->
    exists linkage, after.declaration? id = some { old with linkage := linkage } ∧
      (old.name ≠ name -> linkage = old.linkage)
  new : forall id declaration, before.declaration? id = none ->
    after.declaration? id = some declaration -> declaration.name = name ∧ declaration.code = none
  lookup : forall other id, before.lookup? other = some id -> after.lookup? other = some id
  lookup_of_ne : forall other, other ≠ name -> after.lookup? other = before.lookup? other
  data : after.data = before.data

variable {before after : Module} {name : String} {linkage : Linkage}
  {signature : MachineSignature}

theorem Spares.refl (module : Module) (name : String) : Spares module name module where
  declaration := fun _ old hold => ⟨old.linkage, hold, fun _ => rfl⟩
  new := by
    intro id declaration hnone hsome
    rw [hnone] at hsome
    cases hsome
  lookup := fun _ _ h => h
  lookup_of_ne := fun _ _ => rfl
  data := rfl

theorem spares_push (declaration : Declaration) (hname : declaration.name = name)
    (hcode : declaration.code = none) : Spares before name (before.push declaration) where
  declaration := by
    intro id old hold
    have hlt : id.index < before.functions.length := (List.getElem?_eq_some_iff.mp hold).choose
    rw [declaration?_push_of_lt before declaration hlt]
    exact ⟨old.linkage, hold, fun _ => rfl⟩
  new := by
    intro id pushed hnone hsome
    rcases declaration?_push_cases hsome with hold | ⟨_, rfl⟩
    · rw [hnone] at hold
      cases hold
    · exact ⟨hname, hcode⟩
  lookup := fun _ _ h => lookup?_push_of_isSome declaration h
  lookup_of_ne := by
    intro other hne
    apply lookup?_push_of_ne
    rw [hname]
    exact hne.symm
  data := rfl

theorem spares_merged {id : FuncId} (hid : before.lookup? name = some id) (linkage : Linkage) :
    Spares before name (before.update id fun old => old.merged linkage) where
  declaration := by
    intro other old hold
    by_cases heq : other = id
    · subst heq
      rcases name_of_lookup? hid with ⟨found, hfound, hname⟩
      rw [hfound] at hold
      cases hold
      rw [declaration?_update_self, hfound]
      exact ⟨old.linkage.merge linkage, rfl, fun hne => absurd hname hne⟩
    · rw [declaration?_update_of_ne before _ heq]
      exact ⟨old.linkage, hold, fun _ => rfl⟩
  new := by
    intro other declaration hnone hsome
    by_cases heq : other = id
    · subst heq
      rw [declaration?_update_self, hnone] at hsome
      cases hsome
    · rw [declaration?_update_of_ne before _ heq, hnone] at hsome
      cases hsome
  lookup := by
    intro other found h
    rw [lookup?_update]
    · exact h
    · exact fun _ => rfl
  lookup_of_ne := by
    intro other _
    apply lookup?_update
    exact fun _ => rfl
  data := rfl

/-- Only the name itself is concerned by a conflict over it. -/
theorem Refuses.spares {conflict : Conflict}
    (h : before.Refuses name linkage signature conflict after) : before.Spares name after := by
  cases h with
  | data => exact .refl before name
  | imported => exact spares_push _ rfl rfl
  | known hid => exact spares_merged hid linkage

/-! ## Defining a declared function -/

theorem define_of_declared {module : Module} {id : FuncId} {declaration : Declaration}
    (name : String) (procedure : Procedure) (h : module.declaration? id = some declaration) :
    define name id procedure module =
      if !declaration.linkage.isDefinable then
        .error (.fault (.declaration name .importDefinition)) module
      else if declaration.code.isSome then
        .error (.fault (.declaration name .duplicateDefinition)) module
      else if !StackSlot.fitFrame procedure.slots then .error (.misuse .frameTooLarge) module
      else .ok ⟨⟩ (module.update id fun old => { old with code := some procedure }) := by
  simp only [define, Action.run_bind, Action.run_get, h]
  split
  · rfl
  · split
    · rfl
    · split
      · rfl
      · rfl

end Module

/-! ## Definitions -/

namespace CompilationUnit

variable {unit after : CompilationUnit} {name : String} {sig : Signature} {linkage : Linkage}
  {body : Body}

section Equations

variable {procedure : Procedure} (hprocedure : unit.procedure name sig body = .ok procedure)

include hprocedure

theorem define_of_imported (h : unit.lookup? name = none) (hdata : name ∉ unit.module.data)
    (hlinkage : linkage.isDefinable = false) :
    define name sig linkage body unit =
      .error (.fault (.declaration name .importDefinition))
        { unit with
          module := unit.module.push
            { name := name, linkage := linkage, signature := unit.signature sig,
              code := none } } := by
  have hdefine := Module.define_of_declared name procedure
    (Module.declaration?_push_self unit.module
      { name := name, linkage := linkage, signature := unit.signature sig, code := none })
  rw [if_pos (by simp [hlinkage])] at hdefine
  simp only [define, Action.run_bind, Action.run_get, hprocedure, onModule, Action.onPart,
    Module.declare_of_free h hdata, hdefine]

/-- A function that is known is declared once more, and gets its code if nothing stands against
it. -/
theorem define_of_known {id : FuncId} {old : Declaration} (hid : unit.lookup? name = some id)
    (hold : unit.module.declaration? id = some old) :
    define name sig linkage body unit =
      match old.conflict? linkage (unit.signature sig) with
      | some conflict =>
          .error (.fault (.declaration name conflict))
            { unit with module := unit.module.update id fun old => old.merged linkage }
      | none =>
          if !StackSlot.fitFrame procedure.slots then
            .error (.misuse .frameTooLarge)
              { unit with module := unit.module.update id fun old => old.merged linkage }
          else
            .ok id
              { unit with
                module := (unit.module.update id fun old => old.merged linkage).update id
                  fun old => { old with code := some procedure }
                log := unit.log ++ [.defined name linkage] } := by
  have hsignature : unit.module.signature? id = some old.signature := by
    rw [Module.signature?, hold, Option.map_some]
  have hmerged : (unit.module.update id fun old => old.merged linkage).declaration? id =
      some (old.merged linkage) := by
    rw [Module.declaration?_update_self, hold, Option.map_some]
  by_cases hsame : old.signature = unit.signature sig
  · have hdeclare : Module.declare name linkage (unit.signature sig) unit.module =
        .ok id (unit.module.update id fun old => old.merged linkage) := by
      rw [Module.declare_of_known hid, hsignature, if_pos (congrArg some hsame)]
      rfl
    simp only [define, Action.run_bind, Action.run_get, hprocedure, onModule, Action.onPart,
      hdeclare, Module.define_of_declared name procedure hmerged, Declaration.conflict?,
      if_pos hsame]
    cases (old.merged linkage).linkage.isDefinable with
    | false => rfl
    | true =>
        cases (old.merged linkage).code with
        | some code => rfl
        | none =>
            cases StackSlot.fitFrame procedure.slots with
            | false => rfl
            | true => rfl
  · have hdeclare : Module.declare name linkage (unit.signature sig) unit.module =
        .error (.fault (.declaration name .incompatibleSignature))
          (unit.module.update id fun old => old.merged linkage) := by
      rw [Module.declare_of_known hid, hsignature, if_neg (by simpa using hsame)]
      rfl
    simp only [define, Action.run_bind, Action.run_get, hprocedure, onModule, Action.onPart,
      hdeclare, Declaration.conflict?, if_neg hsame]

end Equations

/-- What a definition fails with, and what it leaves. -/
theorem define_eq_fault {fault : Fault}
    (h : define name sig linkage body unit = .error (.fault fault) after) :
    ((body.script.fault? (unit.site sig) = some fault ∨
        body.script.fault? (unit.site sig) = none ∧ fault = .rejected name) ∧ after = unit) ∨
      body.script.fault? (unit.site sig) = none ∧ exists conflict module,
        fault = .declaration name conflict ∧
          unit.module.Refuses name linkage (unit.signature sig) conflict module ∧
            after = { unit with module := module } := by
  cases hprocedure : unit.procedure name sig body with
  | error stop =>
      rw [define_of_stop hprocedure] at h
      cases h
      exact Or.inl ⟨fault?_of_procedure hprocedure, rfl⟩
  | ok procedure =>
      refine Or.inr ⟨(outcome_of_procedure hprocedure).left, ?_⟩
      cases hlookup : unit.lookup? name with
      | some id =>
          rcases Module.name_of_lookup? hlookup with ⟨old, hold, _⟩
          rw [define_of_known hprocedure hlookup hold] at h
          split at h
          · rename_i conflict hconflict
            cases h
            exact ⟨conflict, _, rfl, .known hlookup hold hconflict, rfl⟩
          · split at h
            all_goals cases h
      | none =>
          by_cases hdata : name ∈ unit.module.data
          · rw [define_of_data hprocedure hlookup hdata] at h
            cases h
            exact ⟨_, _, rfl, .data hlookup hdata, rfl⟩
          · cases hlinkage : linkage.isDefinable with
            | false =>
                have himported : linkage = .imported := by
                  cases linkage
                  case imported => rfl
                  all_goals cases hlinkage
                subst himported
                rw [define_of_imported hprocedure hlookup hdata hlinkage] at h
                cases h
                exact ⟨_, _, rfl, .imported hlookup hdata rfl, rfl⟩
            | true =>
                cases hfits : StackSlot.fitFrame procedure.slots with
                | false =>
                    rw [define_of_unfit hprocedure hlookup hdata hlinkage hfits] at h
                    cases h
                | true =>
                    rw [define_of_free hprocedure hlookup hdata hlinkage hfits] at h
                    cases h

/-- A definition that fails spares all but its own name.  It leaves the unit as it was if a step of
the script has a fault, at whichever depth of loops, or if the code is rejected.  Otherwise the
module holds something against it, and is left as the conflict says. -/
theorem define_fails {fault : Fault}
    (h : define name sig linkage body unit = .error (.fault fault) after) :
    unit.module.Spares name after.module ∧ after = { unit with module := after.module } ∧
      (after.module = unit.module ∧
          (body.script.fault? (unit.site sig) = some fault ∨
            body.script.fault? (unit.site sig) = none ∧ fault = .rejected name) ∨
        body.script.fault? (unit.site sig) = none ∧ exists conflict,
          fault = .declaration name conflict ∧
            unit.module.Refuses name linkage (unit.signature sig) conflict after.module) := by
  rcases define_eq_fault h with ⟨hfault, rfl⟩ | ⟨hnone, conflict, module, rfl, hrefuses, rfl⟩
  · exact ⟨.refl after.module name, rfl, Or.inl ⟨rfl, hfault⟩⟩
  · exact ⟨hrefuses.spares, rfl, Or.inr ⟨hnone, conflict, rfl, hrefuses⟩⟩

/-- A call for a result that there is not, in a loop of a loop, and a function that is declared as
an import and defined with another signature. -/
theorem define_fails_nested :
    let sig : Signature := { params := [.int64], returns := none }
    let unit := (declareImport "sink" (.command [])).leaves
      (ofModule .empty "unit" { os := .posix, intWidth := .unspecified } [])
    let call : Script := .step (.callFirst "x" { index := 0 } []) .done
    let nested : Body :=
      { script := .step (.param "n" 0)
          (Script.countUp "n" "i" (Script.countUp "n" "j" call .done) .done)
        returns := [] }
    let merged := unit.module.update { index := 0 } fun old => old.merged .internal
    (define "f" sig .exported nested unit = .error (.fault (.noResult { index := 0 })) unit ∧
        unit.module.Spares "f" unit.module ∧
          nested.script.fault? (unit.site sig) = some (.noResult { index := 0 })) ∧
      (define "sink" sig .internal { script := .done, returns := [] } unit =
          .error (.fault (.declaration "sink" .incompatibleSignature))
            { unit with module := merged } ∧
        merged ≠ unit.module ∧ unit.module.Spares "sink" merged ∧
          unit.module.Refuses "sink" .internal (unit.signature sig) .incompatibleSignature
            merged) := by
  intro sig unit call nested merged
  have hnested : define "f" sig .exported nested unit =
      .error (.fault (.noResult { index := 0 })) unit :=
    define_of_stop (by decide +kernel)
  have hclash : define "sink" sig .internal { script := .done, returns := [] } unit =
      .error (.fault (.declaration "sink" .incompatibleSignature))
        { unit with module := merged } := by
    have hid : unit.lookup? "sink" = some { index := 0 } := by
      decide +kernel
    have hold : unit.module.declaration? { index := 0 } =
        some
          { name := "sink", linkage := .imported, signature := { params := [], returns := [] },
            code := none } := by
      decide +kernel
    have hok : (unit.procedure "sink" sig { script := .done, returns := [] }).isOk = true := by
      decide +kernel
    cases hprocedure : unit.procedure "sink" sig { script := .done, returns := [] } with
    | error stop =>
        rw [hprocedure] at hok
        cases hok
    | ok procedure => exact define_of_known hprocedure hid hold
  have hchanged : merged ≠ unit.module := by
    decide +kernel
  rcases define_fails hnested with ⟨hspares, _, ⟨_, hfault | ⟨_, hother⟩⟩ | ⟨_, _, hother, _⟩⟩
  · rcases define_fails hclash with ⟨hrest, _, ⟨hsame, _⟩ | ⟨_, _, hconflict, hrefuses⟩⟩
    · exact absurd hsame hchanged
    · cases hconflict
      exact ⟨⟨hnested, hspares, hfault⟩, hclash, hchanged, hrest, hrefuses⟩
  · cases hother
  · cases hother

end CompilationUnit
end Provision
