import Mathlib.Logic.Relation
import Provision.Module.CompilationUnit
import Provision.Module.Laws
import Provision.Proofs.Action

/-!
# Declaring and defining

What declaring and defining a function do to a module, in every case that the name of the function
can be in, and the few steps that a module can take by them.  Names of functions are never given
up.
-/

namespace Provision

/-! ## Modules -/

namespace Module

section Equations

variable {module : Module} {name : String} {linkage : Linkage} {signature : MachineSignature}
  {id : FuncId}

/-- A further declaration of a function leaves the linkages merged, whatever the signatures. -/
theorem declare_of_known (h : module.lookup? name = some id) :
    declare name linkage signature module =
      if module.signature? id = some signature then
        .ok id (module.update id fun old => { old with linkage := old.linkage.merge linkage })
      else
        .error (.fault (.declaration name .incompatibleSignature))
          (module.update id fun old => { old with linkage := old.linkage.merge linkage }) := by
  simp only [declare, Action.run_bind, Action.run_get, h]
  by_cases hsame : module.signature? id = some signature
  · rw [if_pos hsame]
    simp only [if_pos hsame]
    rfl
  · rw [if_neg hsame]
    simp only [if_neg hsame]
    rfl

theorem declare_of_data (h : module.lookup? name = none) (hdata : name ∈ module.data) :
    declare name linkage signature module =
      .error (.fault (.declaration name .incompatibleDeclaration)) module := by
  simp only [declare, Action.run_bind, Action.run_get, h]
  rw [if_pos (List.contains_iff_mem.mpr hdata)]
  rfl

theorem declare_of_free (h : module.lookup? name = none) (hdata : name ∉ module.data) :
    declare name linkage signature module =
      .ok { index := module.functions.length }
        (module.push
          { name := name, linkage := linkage, signature := signature, code := none }) := by
  simp only [declare, Action.run_bind, Action.run_get, h]
  rw [if_neg (by simp [hdata])]
  rfl

end Equations

theorem define_of_pushed (module : Module) (name : String) (declaration : Declaration)
    {procedure : Procedure} (hlinkage : declaration.linkage.isDefinable = true)
    (hcode : declaration.code = none)
    (hfits : StackSlot.fitFrame procedure.slots = true) :
    define name { index := module.functions.length } procedure (module.push declaration) =
      .ok ⟨⟩ (module.push { declaration with code := some procedure }) := by
  have hupdate : (module.push declaration).update { index := module.functions.length }
      (fun old => { old with code := some procedure }) =
        module.push { declaration with code := some procedure } := by
    simp [update, push, List.modify_eq_take_drop]
  simp only [define, Action.run_bind, Action.run_get, declaration?_push_self]
  rw [if_neg (by simp [hlinkage]), if_neg (by simp [hcode]), if_neg (by simp [hfits])]
  show EStateM.Result.ok _ _ = _
  rw [hupdate]

theorem define_of_unfit (module : Module) (name : String) (declaration : Declaration)
    {procedure : Procedure} (hlinkage : declaration.linkage.isDefinable = true)
    (hcode : declaration.code = none)
    (hfits : StackSlot.fitFrame procedure.slots = false) :
    define name { index := module.functions.length } procedure (module.push declaration) =
      .error (.misuse .frameTooLarge) (module.push declaration) := by
  simp only [define, Action.run_bind, Action.run_get, declaration?_push_self]
  rw [if_neg (by simp [hlinkage]), if_neg (by simp [hcode]), if_pos (by simp [hfits])]
  rfl

/-! ## Names -/

def names (module : Module) : List String :=
  module.functions.map Declaration.name

theorem names_push (module : Module) (declaration : Declaration) :
    (module.push declaration).names = module.names ++ [declaration.name] := by
  simp [names, push]

theorem nodup_names_push {module : Module} {declaration : Declaration} (h : module.names.Nodup)
    (hfree : declaration.name ∉ module.names) : (module.push declaration).names.Nodup := by
  rw [names_push, List.nodup_append]
  refine ⟨h, by simp, ?_⟩
  intro name hname other hother heq
  rw [List.mem_singleton.mp hother] at heq
  rw [heq] at hname
  exact hfree hname

/-- Functions of a module keep their numbers and their names. -/
def Grows (before after : Module) : Prop :=
  before.names <+: after.names

theorem Grows.refl (module : Module) : Grows module module :=
  List.prefix_rfl

theorem Grows.trans {a b c : Module} (hab : Grows a b) (hbc : Grows b c) : Grows a c :=
  List.IsPrefix.trans hab hbc

theorem Grows.of_names_eq {before after : Module} (h : after.names = before.names) :
    Grows before after := by
  unfold Grows
  exact h ▸ List.prefix_rfl

theorem grows_push (module : Module) (declaration : Declaration) :
    Grows module (module.push declaration) := by
  simp [Grows, names, push]

theorem grows_update (module : Module) (id : FuncId) (change : Declaration -> Declaration)
    (h : forall declaration, (change declaration).name = declaration.name) :
    Grows module (module.update id change) :=
  .of_names_eq (names_modify h module.functions id.index)

theorem lookup?_eq (module : Module) (name : String) :
    module.lookup? name =
      (module.names.findIdx? fun other => decide (other = name)).map FuncId.mk := by
  unfold lookup? names
  rw [List.findIdx?_map]
  rfl

theorem lookup?_eq_none_iff {module : Module} {name : String} :
    module.lookup? name = none ↔ name ∉ module.names := by
  rw [lookup?_eq, Option.map_eq_none_iff, List.findIdx?_eq_none_iff]
  constructor
  · intro h hmem
    simpa using h name hmem
  · intro h other hother
    simp only [decide_eq_false_iff_not]
    intro heq
    subst heq
    exact h hother

theorem mem_names_of_lookup? {module : Module} {name : String} {id : FuncId}
    (h : module.lookup? name = some id) : name ∈ module.names := by
  rcases name_of_lookup? h with ⟨declaration, hdeclaration, hname⟩
  rw [← hname]
  exact List.mem_map_of_mem (List.mem_of_getElem? hdeclaration)

theorem Grows.lookup? {before after : Module} (h : Grows before after) {name : String}
    {id : FuncId} (hid : before.lookup? name = some id) : after.lookup? name = some id := by
  rcases h with ⟨more, hmore⟩
  rw [lookup?_eq, Option.map_eq_some_iff] at hid ⊢
  rcases hid with ⟨index, hfound, hindex⟩
  refine ⟨index, ?_, hindex⟩
  rw [← hmore, List.findIdx?_append, hfound]
  rfl

/-! ## Appending -/

theorem declaration?_push_cases {module : Module} {pushed declaration : Declaration} {id : FuncId}
    (h : (module.push pushed).declaration? id = some declaration) :
    module.declaration? id = some declaration ∨
      id = { index := module.functions.length } ∧ declaration = pushed := by
  rcases id with ⟨index⟩
  have hget : (module.functions ++ [pushed])[index]? = some declaration := h
  rcases Nat.lt_trichotomy index module.functions.length with hlt | heq | hgt
  · rw [List.getElem?_append_left hlt] at hget
    exact .inl hget
  · rw [heq, List.getElem?_concat_length] at hget
    cases hget
    exact .inr ⟨by rw [heq], rfl⟩
  · have hbeyond : (module.functions ++ [pushed]).length ≤ index := by
      simpa using Nat.succ_le_of_lt hgt
    rw [List.getElem?_eq_none hbeyond] at hget
    cases hget

/-- Functions under free names are put behind those that a module has. -/
inductive Appends : Module -> Module -> Prop where
  | refl (module : Module) : Appends module module
  | push {before after : Module} (h : Appends before after) (declaration : Declaration)
      (hfree : declaration.name ∉ after.names) : Appends before (after.push declaration)

theorem Appends.trans {a b c : Module} (hab : Appends a b) (hbc : Appends b c) : Appends a c := by
  induction hbc with
  | refl => exact hab
  | push _ declaration hfree ih => exact ih.push declaration hfree

theorem Appends.grows {before after : Module} (h : Appends before after) : Grows before after := by
  induction h with
  | refl => exact Grows.refl before
  | push _ declaration _ ih => exact ih.trans (grows_push _ declaration)

/-- Functions that are there already stay as they are. -/
theorem Appends.declaration? {before after : Module} (h : Appends before after) {id : FuncId}
    {declaration : Declaration} (hold : before.declaration? id = some declaration) :
    after.declaration? id = some declaration := by
  induction h with
  | refl => exact hold
  | @push after _ pushed _ ih =>
      rw [declaration?_push_of_lt after pushed (List.getElem?_eq_some_iff.mp ih).choose]
      exact ih

/-! ## What declaring and defining leave -/

/-- A declaration that comes to nothing may have merged the linkages all the same. -/
theorem leaves_declare_cases (module : Module) (name : String) (linkage : Linkage)
    (signature : MachineSignature) :
    (declare name linkage signature).leaves module = module ∨
      (exists id, (declare name linkage signature).leaves module =
        module.update id fun old => { old with linkage := old.linkage.merge linkage }) ∨
      (module.lookup? name = none ∧ name ∉ module.data ∧
        (declare name linkage signature).leaves module = module.push
          { name := name, linkage := linkage, signature := signature, code := none }) := by
  cases hlookup : module.lookup? name with
  | some id =>
      refine .inr (.inl ⟨id, ?_⟩)
      rw [Action.leaves, declare_of_known hlookup]
      by_cases hsame : module.signature? id = some signature
      · rw [if_pos hsame]
      · rw [if_neg hsame]
  | none =>
      by_cases hdata : name ∈ module.data
      · exact .inl (by rw [Action.leaves, declare_of_data hlookup hdata])
      · exact .inr (.inr ⟨rfl, hdata, by rw [Action.leaves, declare_of_free hlookup hdata]⟩)

/-- Only a function without code can get one. -/
theorem leaves_define_cases (module : Module) (name : String) (id : FuncId)
    (procedure : Procedure) :
    (define name id procedure).leaves module = module ∨
      exists old, module.declaration? id = some old ∧ old.code = none ∧
        (define name id procedure).leaves module =
          module.update id fun old => { old with code := some procedure } := by
  unfold define
  rw [Action.leaves_get_bind]
  cases module.declaration? id with
  | none => exact .inl rfl
  | some old =>
      simp only
      split
      · exact .inl rfl
      · split
        · exact .inl rfl
        · rename_i hcode
          split
          · exact .inl rfl
          · exact .inr ⟨old, rfl, by simpa using hcode, rfl⟩

/-! ## Evolving -/

/-- All that is ever done to a module. -/
inductive Step : Module -> Module -> Prop where
  | append {module : Module} {declaration : Declaration}
      (hfree : module.lookup? declaration.name = none) (hdata : declaration.name ∉ module.data) :
      Step module (module.push declaration)
  | merge (module : Module) (id : FuncId) (linkage : Linkage) :
      Step module
        (module.update id fun old => { old with linkage := old.linkage.merge linkage })
  | complete {module : Module} {id : FuncId} {old : Declaration}
      (hold : module.declaration? id = some old) (hcode : old.code = none)
      (procedure : Procedure) :
      Step module (module.update id fun old => { old with code := some procedure })
  | reserve (module : Module) (name : String) : Step module (module.declareData name)

/-- A module becomes another one, step by step. -/
abbrev Evolves : Module -> Module -> Prop :=
  Relation.ReflTransGen Step

theorem always_declare (name : String) (linkage : Linkage) (signature : MachineSignature) :
    Action.Always Evolves (declare name linkage signature) := by
  intro module
  rcases leaves_declare_cases module name linkage signature with
    hsame | ⟨id, hmerged⟩ | ⟨hfree, hdata, hpushed⟩
  · rw [hsame]
  · rw [hmerged]
    exact .single (.merge module id linkage)
  · rw [hpushed]
    exact .single (.append hfree hdata)

theorem always_define (name : String) (id : FuncId) (procedure : Procedure) :
    Action.Always Evolves (define name id procedure) := by
  intro module
  rcases leaves_define_cases module name id procedure with hsame | ⟨old, hold, hcode, hcompleted⟩
  · rw [hsame]
  · rw [hcompleted]
    exact .single (.complete hold hcode procedure)

theorem Step.grows {before after : Module} (h : Step before after) : Grows before after := by
  cases h with
  | append _ _ => exact grows_push before _
  | merge id linkage => exact grows_update before id _ fun _ => rfl
  | complete _ _ procedure => exact grows_update before _ _ fun _ => rfl
  | reserve name =>
      unfold declareData
      split
      · exact Grows.refl before
      · exact .of_names_eq rfl

theorem Evolves.grows {before after : Module} (h : Evolves before after) :
    Grows before after := by
  induction h with
  | refl => exact Grows.refl before
  | tail _ hstep ih => exact ih.trans hstep.grows

end Module

/-! ## Compilation units -/

namespace CompilationUnit

variable {unit : CompilationUnit} {name : String} {sig : Signature} {linkage : Linkage}
  {body : Body}

theorem declareImport_of_known {id : FuncId} (h : unit.lookup? name = some id) :
    declareImport name sig unit = .ok id unit := by
  simp only [declareImport, Action.run_bind, Action.run_get, h]
  rfl

theorem declareImport_of_free (h : unit.lookup? name = none) (hdata : name ∉ unit.module.data) :
    declareImport name sig unit =
      .ok { index := unit.module.functions.length }
        { unit with
          module := unit.module.push
            { name := name, linkage := .imported, signature := unit.signature sig, code := none }
          log := unit.log ++ [.declared name] } := by
  simp only [declareImport, Action.run_bind, Action.run_get, h, onModule,
    Action.onPart, Module.declare_of_free h hdata]
  rfl

theorem declareImport_of_data (h : unit.lookup? name = none) (hdata : name ∈ unit.module.data) :
    declareImport name sig unit =
      .error (.fault (.declaration name .incompatibleDeclaration)) unit := by
  simp only [declareImport, Action.run_bind, Action.run_get, h, onModule,
    Action.onPart, Module.declare_of_data h hdata]

theorem define_of_stop {stop : Stop} (h : unit.procedure name sig body = .error stop) :
    define name sig linkage body unit = .error stop unit := by
  simp only [define, Action.run_bind, Action.run_get, h]
  rfl

section Defining

variable {procedure : Procedure} (hprocedure : unit.procedure name sig body = .ok procedure)
  (h : unit.lookup? name = none)

include hprocedure h

theorem define_of_data (hdata : name ∈ unit.module.data) :
    define name sig linkage body unit =
      .error (.fault (.declaration name .incompatibleDeclaration)) unit := by
  simp only [define, Action.run_bind, Action.run_get, hprocedure, onModule,
    Action.onPart, Module.declare_of_data h hdata]

theorem define_of_unfit (hdata : name ∉ unit.module.data) (hlinkage : linkage.isDefinable = true)
    (hfits : StackSlot.fitFrame procedure.slots = false) :
    define name sig linkage body unit =
      .error (.misuse .frameTooLarge)
        { unit with
          module := unit.module.push
            { name := name, linkage := linkage, signature := unit.signature sig,
              code := none } } := by
  have hdefine := Module.define_of_unfit unit.module name
    { name := name, linkage := linkage, signature := unit.signature sig, code := none }
    hlinkage rfl hfits
  simp only [define, Action.run_bind, Action.run_get, hprocedure, onModule,
    Action.onPart, Module.declare_of_free h hdata, hdefine]

theorem define_of_free (hdata : name ∉ unit.module.data) (hlinkage : linkage.isDefinable = true)
    (hfits : StackSlot.fitFrame procedure.slots = true) :
    define name sig linkage body unit =
      .ok { index := unit.module.functions.length }
        { unit with
          module := unit.module.push
            { name := name, linkage := linkage, signature := unit.signature sig,
              code := some procedure }
          log := unit.log ++ [.defined name linkage] } := by
  have hdefine := Module.define_of_pushed unit.module name
    { name := name, linkage := linkage, signature := unit.signature sig, code := none }
    hlinkage rfl hfits
  simp only [define, Action.run_bind, Action.run_get, hprocedure, onModule,
    Action.onPart, Module.declare_of_free h hdata, hdefine]
  rfl

end Defining

/-- A function that could be defined under a free name is the last one of the module, and its code
is that of its body. -/
theorem define_eq_ok {id : FuncId} {after : CompilationUnit} (h : unit.lookup? name = none)
    (hlinkage : linkage.isDefinable = true)
    (hrun : define name sig linkage body unit = .ok id after) :
    exists procedure, unit.procedure name sig body = .ok procedure ∧
      id = { index := unit.module.functions.length } ∧
        after.module = unit.module.push
          { name := name, linkage := linkage, signature := unit.signature sig,
            code := some procedure } := by
  cases hprocedure : unit.procedure name sig body with
  | error stop =>
      rw [define_of_stop hprocedure] at hrun
      cases hrun
  | ok procedure =>
      by_cases hdata : name ∈ unit.module.data
      · rw [define_of_data hprocedure h hdata] at hrun
        cases hrun
      · cases hfits : StackSlot.fitFrame procedure.slots with
        | false =>
            rw [define_of_unfit hprocedure h hdata hlinkage hfits] at hrun
            cases hrun
        | true =>
            rw [define_of_free hprocedure h hdata hlinkage hfits] at hrun
            cases hrun
            exact ⟨procedure, rfl, rfl, rfl⟩

end CompilationUnit
end Provision
