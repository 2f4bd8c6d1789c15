import Provision.Proofs.Module.Making

/-!
# Definitions that last

What a function has once it is defined: its number, its signature, its code, and a linkage under
which it may have code.  Whatever is done to a unit afterwards, its module keeps all four.
-/

namespace Provision

/-! ## Declarations -/

/-- A function stays what it is to its callers.  Its linkage may have been merged with another one,
and it may have got its code. -/
structure Declaration.Keeps (old new : Declaration) : Prop where
  name : new.name = old.name
  signature : new.signature = old.signature
  code : forall procedure, old.code = some procedure -> new.code = some procedure
  definable : old.linkage.isDefinable = true -> new.linkage.isDefinable = true

namespace Declaration.Keeps

theorem refl (declaration : Declaration) : declaration.Keeps declaration :=
  ⟨rfl, rfl, fun _ h => h, fun h => h⟩

theorem trans {a b c : Declaration} (hab : a.Keeps b) (hbc : b.Keeps c) : a.Keeps c where
  name := hbc.name.trans hab.name
  signature := hbc.signature.trans hab.signature
  code := fun procedure h => hbc.code procedure (hab.code procedure h)
  definable := fun h => hbc.definable (hab.definable h)

theorem merge (old : Declaration) (linkage : Linkage) :
    old.Keeps { old with linkage := old.linkage.merge linkage } :=
  ⟨rfl, rfl, fun _ h => h, Linkage.isDefinable_merge linkage⟩

theorem withCode {old : Declaration} (h : old.code = none) (procedure : Procedure) :
    old.Keeps { old with code := some procedure } := by
  refine ⟨rfl, rfl, ?_, fun h => h⟩
  intro other hother
  rw [h] at hother
  cases hother

end Declaration.Keeps

/-! ## Modules -/

namespace Module

/-- Functions keep their numbers, and stay what they are to their callers. -/
def Keeps (before after : Module) : Prop :=
  forall id old, before.declaration? id = some old ->
    exists new, after.declaration? id = some new ∧ old.Keeps new

theorem Keeps.refl (module : Module) : Keeps module module :=
  fun _ old h => ⟨old, h, .refl old⟩

theorem Keeps.trans {a b c : Module} (hab : Keeps a b) (hbc : Keeps b c) : Keeps a c := by
  intro id old hold
  rcases hab id old hold with ⟨middle, hmiddle, hfirst⟩
  rcases hbc id middle hmiddle with ⟨new, hnew, hsecond⟩
  exact ⟨new, hnew, hfirst.trans hsecond⟩

theorem Keeps.grows {before after : Module} (h : Keeps before after) : Grows before after := by
  rw [Grows, List.prefix_iff_getElem?]
  intro index hindex
  have hlt : index < before.functions.length := by
    simpa [names] using hindex
  have hold : before.declaration? { index := index } = some before.functions[index] :=
    List.getElem?_eq_getElem hlt
  rcases h _ _ hold with ⟨new, hnew, hkeeps⟩
  have hget : after.functions[index]? = some new := hnew
  simp [names, hget, hkeeps.name]

theorem keeps_push (module : Module) (declaration : Declaration) :
    Keeps module (module.push declaration) := by
  intro id old hold
  have hlt : id.index < module.functions.length := by
    rcases List.getElem?_eq_some_iff.mp hold with ⟨hlt, _⟩
    exact hlt
  rw [declaration?_push_of_lt module declaration hlt]
  exact ⟨old, hold, .refl old⟩

theorem keeps_update {module : Module} {id : FuncId} {change : Declaration -> Declaration}
    (h : forall old, module.declaration? id = some old -> old.Keeps (change old)) :
    Keeps module (module.update id change) := by
  intro other old hold
  by_cases heq : other = id
  · subst heq
    rw [declaration?_update_self, hold]
    exact ⟨change old, rfl, h old hold⟩
  · rw [declaration?_update_of_ne module change heq]
    exact ⟨old, hold, .refl old⟩

theorem Step.keeps {before after : Module} (h : Step before after) : Keeps before after := by
  cases h with
  | append _ _ => exact keeps_push before _
  | merge id linkage => exact keeps_update fun old _ => .merge old linkage
  | complete hold hcode procedure =>
      apply keeps_update
      intro old hfound
      rw [hold] at hfound
      cases hfound
      exact .withCode hcode procedure
  | reserve name =>
      unfold declareData
      split
      · exact Keeps.refl before
      · exact Keeps.refl before

/-- Whatever becomes of a module, its functions stay what they are to their callers. -/
theorem Evolves.keeps {before after : Module} (h : Evolves before after) :
    Keeps before after := by
  induction h with
  | refl => exact Keeps.refl before
  | tail _ hstep ih => exact ih.trans hstep.keeps

/-! ## Defined functions -/

/-- A name stands for a function that is defined: it has the given signature and code, and a
linkage under which it may have code. -/
structure Defines (module : Module) (name : String) (id : FuncId) (signature : MachineSignature)
    (procedure : Procedure) : Prop where
  lookup : module.lookup? name = some id
  declaration : exists linkage, linkage.isDefinable = true ∧
    module.declaration? id =
      some { name := name, linkage := linkage, signature := signature, code := some procedure }

theorem Defines.keeps {before after : Module} {name : String} {id : FuncId}
    {signature : MachineSignature} {procedure : Procedure}
    (h : before.Defines name id signature procedure) (hkeeps : Keeps before after) :
    after.Defines name id signature procedure where
  lookup := hkeeps.grows.lookup? h.lookup
  declaration := by
    rcases h.declaration with ⟨linkage, hdefinable, hold⟩
    rcases hkeeps id _ hold with ⟨new, hnew, hkept⟩
    refine ⟨new.linkage, hkept.definable hdefinable, ?_⟩
    have hname : new.name = name := hkept.name
    have hsignature : new.signature = signature := hkept.signature
    have hcode : new.code = some procedure := hkept.code procedure rfl
    rw [hnew, ← hname, ← hsignature, ← hcode]

section Defining

variable {module after : Module} {name : String} {linkage : Linkage}
  {signature : MachineSignature} {procedure : Procedure} {id : FuncId}

/-- A function that could be declared goes by its name and has the signature that was asked for. -/
theorem declare_eq_ok (h : declare name linkage signature module = .ok id after) :
    after.lookup? name = some id ∧ exists declaration,
      after.declaration? id = some declaration ∧ declaration.name = name ∧
        declaration.signature = signature := by
  cases hlookup : module.lookup? name with
  | some found =>
      rw [declare_of_known hlookup] at h
      by_cases hsame : module.signature? found = some signature
      · rw [if_pos hsame] at h
        cases h
        rcases name_of_lookup? hlookup with ⟨old, hold, hname⟩
        rw [signature?, hold, Option.map_some, Option.some.injEq] at hsame
        constructor
        · rw [lookup?_update]
          · exact hlookup
          · exact fun _ => rfl
        · rw [declaration?_update_self, hold]
          exact ⟨_, rfl, hname, hsame⟩
      · rw [if_neg hsame] at h
        cases h
  | none =>
      by_cases hdata : name ∈ module.data
      · rw [declare_of_data hlookup hdata] at h
        cases h
      · rw [declare_of_free hlookup hdata] at h
        cases h
        exact ⟨lookup?_push_self _ hlookup, _, declaration?_push_self module _, rfl, rfl⟩

/-- A declared function that could be defined has the code, under a linkage that allows for it. -/
theorem define_eq_ok {old : Declaration} (hold : module.declaration? id = some old)
    (h : define name id procedure module = .ok ⟨⟩ after) :
    old.linkage.isDefinable = true ∧
      after.declaration? id = some { old with code := some procedure } := by
  simp only [define, Action.run_bind, Action.run_get, hold] at h
  split at h
  · cases h
  · rename_i hdefinable
    split at h
    · cases h
    · split at h
      · cases h
      · cases h
        rw [declaration?_update_self, hold]
        exact ⟨by simpa using hdefinable, rfl⟩

end Defining
end Module

/-! ## Compilation units -/

namespace CompilationUnit

section Cases

variable (unit : CompilationUnit) (name : String) (sig : Signature) (linkage : Linkage)
  (body : Body)

/-- Declaring an import tells of no definition. -/
theorem declareImport_cases :
    exists module log, unit.module.Evolves module ∧
      (log = unit.log ∨ log = unit.log ++ [.declared name]) ∧
        (declareImport name sig).leaves unit = { unit with module := module, log := log } := by
  cases hlookup : unit.lookup? name with
  | some id =>
      refine ⟨unit.module, unit.log, .refl, .inl rfl, ?_⟩
      rw [Action.leaves, declareImport_of_known hlookup]
  | none =>
      by_cases hdata : name ∈ unit.module.data
      · refine ⟨unit.module, unit.log, .refl, .inl rfl, ?_⟩
        rw [Action.leaves, declareImport_of_data hlookup hdata]
      · have hrun : declareImport name sig unit = _ := declareImport_of_free hlookup hdata
        refine ⟨_, _, ?_, .inr rfl, by rw [Action.leaves, hrun]⟩
        exact .single (.append hlookup hdata)

/-- If a definition succeeds, the name stands for the function, with the code of its body, and the
definition is told. -/
theorem define_cases :
    exists module, unit.module.Evolves module ∧
      ((exists stop, define name sig linkage body unit =
          .error stop { unit with module := module }) ∨
        exists id procedure, unit.procedure name sig body = .ok procedure ∧
          module.Defines name id (unit.signature sig) procedure ∧
            define name sig linkage body unit =
              .ok id
                { unit with module := module, log := unit.log ++ [.defined name linkage] }) := by
  cases hprocedure : unit.procedure name sig body with
  | error stop => exact ⟨unit.module, .refl, .inl ⟨stop, define_of_stop hprocedure⟩⟩
  | ok procedure =>
      have hdeclared := Module.always_declare name linkage (unit.signature sig) unit.module
      cases hdeclare : Module.declare name linkage (unit.signature sig) unit.module with
      | error stop module =>
          rw [Action.leaves, hdeclare] at hdeclared
          refine ⟨module, hdeclared, .inl ⟨stop, ?_⟩⟩
          simp only [define, Action.run_bind, Action.run_get, hprocedure, onModule, Action.onPart,
            hdeclare]
      | ok id module =>
          rw [Action.leaves, hdeclare] at hdeclared
          have hdefined := Module.always_define name id procedure module
          cases hdefine : Module.define name id procedure module with
          | error stop last =>
              rw [Action.leaves, hdefine] at hdefined
              refine ⟨last, hdeclared.trans hdefined, .inl ⟨stop, ?_⟩⟩
              simp only [define, Action.run_bind, Action.run_get, hprocedure, onModule,
                Action.onPart, hdeclare, hdefine]
          | ok _ last =>
              rw [Action.leaves, hdefine] at hdefined
              rcases Module.declare_eq_ok hdeclare with
                ⟨hlookup, declaration, hold, hname, hsignature⟩
              rcases Module.define_eq_ok hold hdefine with ⟨hdefinable, hnew⟩
              rw [hname, hsignature] at hnew
              refine ⟨last, hdeclared.trans hdefined, .inr ⟨id, procedure, rfl, ?_, ?_⟩⟩
              · exact ⟨hdefined.grows.lookup? hlookup, declaration.linkage, hdefinable, hnew⟩
              · simp only [define, Action.run_bind, Action.run_get, hprocedure, onModule,
                  Action.onPart, hdeclare, hdefine]
                rfl

end Cases

/-- Once a function could be defined, its name stands for it, with the code of its body. -/
theorem defines_of_define {unit : CompilationUnit} {name : String} {sig : Signature}
    {linkage : Linkage} {body : Body} {id : FuncId}
    (h : (define name sig linkage body).answer unit = .ok id) :
    exists procedure, unit.procedure name sig body = .ok procedure ∧
      ((define name sig linkage body).leaves unit).module.Defines name id (unit.signature sig)
        procedure := by
  unfold Action.answer at h
  unfold Action.leaves
  rcases define_cases unit name sig linkage body with
    ⟨module, _, ⟨stop, hrun⟩ | ⟨found, procedure, hprocedure, hdefines, hrun⟩⟩
  · rw [hrun] at h
    cases h
  · rw [hrun] at h ⊢
    cases h
    exact ⟨procedure, hprocedure, hdefines⟩

/-! ## Passing from unit to unit -/

/-- What can be done to a unit.  Nothing but a definition tells of one. -/
inductive Step : CompilationUnit -> CompilationUnit -> Prop where
  | tell (unit : CompilationUnit) (event : Event)
      (h : forall name linkage, event ≠ .defined name linkage) :
      Step unit { unit with log := unit.log ++ [event] }
  | declare (unit : CompilationUnit) (name : String) (sig : Signature) :
      Step unit ((declareImport name sig).leaves unit)
  | define (unit : CompilationUnit) (name : String) (sig : Signature) (linkage : Linkage)
      (body : Body) : Step unit ((define name sig linkage body).leaves unit)
  | declareData (unit : CompilationUnit) (name : String) : Step unit (unit.declareData name)
  | rewrap (unit : CompilationUnit) (name : String) (target : Target) (layout : TimeLayout) :
      Step unit ((unit.rewrap name target).withTimeLayout layout)

/-- A unit becomes another one, step by step. -/
abbrev Passes : CompilationUnit -> CompilationUnit -> Prop :=
  Relation.ReflTransGen Step

theorem Step.evolves {before after : CompilationUnit} (h : Step before after) :
    before.module.Evolves after.module := by
  cases h with
  | tell event _ => exact .refl
  | declare name sig =>
      rcases declareImport_cases before name sig with ⟨module, log, hevolves, _, hleaves⟩
      rw [hleaves]
      exact hevolves
  | define name sig linkage body =>
      rcases define_cases before name sig linkage body with
        ⟨module, hevolves, ⟨stop, hrun⟩ | ⟨id, procedure, _, _, hrun⟩⟩
      · rw [Action.leaves, hrun]
        exact hevolves
      · rw [Action.leaves, hrun]
        exact hevolves
  | declareData name => exact .single (.reserve before.module name)
  | rewrap name target layout => exact .refl

theorem Passes.evolves {first last : CompilationUnit} (h : Passes first last) :
    first.module.Evolves last.module := by
  induction h with
  | refl => exact .refl
  | tail _ hstep ih => exact ih.trans hstep.evolves

theorem Passes.keeps {first last : CompilationUnit} (h : Passes first last) :
    first.module.Keeps last.module :=
  h.evolves.keeps

/-! ## Where definitions come from -/

/-- A definition that a step tells of is the step itself, and has succeeded. -/
theorem Step.defined {before after : CompilationUnit} (h : Step before after) {name : String}
    {linkage : Linkage} (hevent : Event.defined name linkage ∈ after.log) :
    Event.defined name linkage ∈ before.log ∨
      exists sig body id, (CompilationUnit.define name sig linkage body).answer before = .ok id ∧
        after = (CompilationUnit.define name sig linkage body).leaves before := by
  cases h with
  | tell event hother =>
      rcases List.mem_append.mp hevent with hold | hnew
      · exact .inl hold
      · exact absurd (List.mem_singleton.mp hnew).symm (hother name linkage)
  | declare other sig =>
      rcases declareImport_cases before other sig with ⟨module, log, _, hlog, hleaves⟩
      rw [hleaves] at hevent
      rcases hlog with rfl | rfl
      · exact .inl hevent
      · exact .inl (by simpa using hevent)
  | define other sig shown body =>
      rcases define_cases before other sig shown body with
        ⟨module, _, ⟨stop, hrun⟩ | ⟨id, procedure, _, _, hrun⟩⟩
      · rw [Action.leaves, hrun] at hevent
        exact .inl hevent
      · have htold := hevent
        rw [Action.leaves, hrun] at htold
        rcases List.mem_append.mp htold with hold | hnew
        · exact .inl hold
        · cases List.mem_singleton.mp hnew
          exact .inr ⟨sig, body, id, by rw [Action.answer, hrun], rfl⟩
  | declareData other => exact .inl hevent
  | rewrap other target layout => exact .inl hevent

/-- A definition that is told of and was not at first has succeeded on the way. -/
theorem Passes.exists_define {first last : CompilationUnit} (h : Passes first last) {name : String}
    {linkage : Linkage} (hevent : Event.defined name linkage ∈ last.log)
    (hnew : Event.defined name linkage ∉ first.log) :
    exists unit sig body id, Passes first unit ∧
      (CompilationUnit.define name sig linkage body).answer unit = .ok id ∧
        Passes ((CompilationUnit.define name sig linkage body).leaves unit) last := by
  induction h with
  | refl => exact absurd hevent hnew
  | @tail unit after hpasses hstep ih =>
      rcases hstep.defined hevent with hold | ⟨sig, body, id, hid, rfl⟩
      · rcases ih hold with ⟨maker, sig, body, id, hmaker, hid, hrest⟩
        exact ⟨maker, sig, body, id, hmaker, hid, hrest.tail hstep⟩
      · exact ⟨unit, sig, body, id, hpasses, hid, .refl⟩

end CompilationUnit
end Provision
