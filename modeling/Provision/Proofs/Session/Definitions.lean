import Provision.Proofs.Module.Lasting
import Provision.Proofs.Provider.History
import Provision.Session

/-!
# Definitions in a session

Once a function is defined, by a caller or by a provider, its name stands for it until the end:
whatever is done to the module, every program that is linked in the end has the code that the
function was given.
-/

namespace Provision

/-! ## What requests do to a unit -/

namespace Provider

/-- The unit of a provider has become another one, step by step. -/
def Passes (before after : Provider) : Prop :=
  before.unit.Passes after.unit

theorem Passes.refl (provider : Provider) : Passes provider provider :=
  Relation.ReflTransGen.refl

theorem Passes.bind {α β : Type} {action : Action Provider α} {next : α -> Action Provider β}
    (h : Action.Always Passes action) (hnext : forall x, Action.Always Passes (next x)) :
    Action.Always Passes (action >>= next) :=
  h.bind (fun _ _ _ => Relation.ReflTransGen.trans) hnext

theorem passes_onUnit {α : Type} {action : Action CompilationUnit α}
    (h : Action.Always CompilationUnit.Passes action) : Action.Always Passes (onUnit action) := by
  intro provider
  rw [Passes, onUnit, Action.leaves_onPart]
  exact h provider.unit

theorem passes_record {event : Event} (h : forall name linkage, event ≠ .defined name linkage) :
    Action.Always Passes (record event) :=
  passes_onUnit fun unit => .single (.tell unit event h)

theorem passes_remember (symbol : Symbol) (id : FuncId) :
    Action.Always Passes (rememberBy Registry.register symbol id) := by
  intro provider
  rw [Passes, rememberBy, Action.leaves_onPart]

theorem passes_obtain (symbol : Symbol) {make : Action CompilationUnit FuncId}
    (h : Action.Always CompilationUnit.Passes make) :
    Action.Always Passes (obtain symbol make) := by
  refine .get_bind fun provider => ?_
  cases provider.registry.find? symbol with
  | some id => exact Passes.bind (passes_record (by simp)) fun _ => Passes.refl
  | none =>
      cases provider.unit.lookup? symbol.name with
      | some id =>
          apply Passes.bind (passes_record (by simp))
          intro _
          exact Passes.bind (passes_remember symbol id) fun _ => Passes.refl
      | none =>
          apply Passes.bind (passes_onUnit h)
          intro id
          exact Passes.bind (passes_remember symbol id) fun _ => Passes.refl

theorem remembering_passes : Remembering (Action.Always Passes) where
  bind := Passes.bind
  look := fun h _ => .get_bind h
  unsupported := fun _ => Passes.refl
  imported := fun symbol sig =>
    passes_obtain symbol fun unit => .single (.declare unit symbol.name sig)
  synthesized := fun symbol sig linkage body _ _ =>
    passes_obtain symbol fun unit => .single (.define unit symbol.name sig linkage body)
  defined := by
    intro wanted element symbol
    apply passes_obtain
    intro unit
    have htell := CompilationUnit.Step.tell unit (.synthesizing symbol.name wanted element)
      (by simp)
    exact (Relation.ReflTransGen.single htell).tail (.define _ _ _ _ _)
  pure := fun _ => Passes.refl
  mapFault := fun wrap h => h.mapFault wrap
  ready := fun _ _ => passes_record (by simp)
  get_bind := .get_bind
  keep := fun _ => Passes.refl

/-- Whatever a provider is asked for, it does nothing to the unit that others could not do. -/
theorem passes_request (wanted : Request) : Action.Always Passes (request wanted) :=
  remembering_passes.request wanted

end Provider

/-! ## Runs of a session -/

theorem CompilationUnit.passes_declareData (data : List String) (unit : CompilationUnit) :
    unit.Passes (data.foldl declareData unit) := by
  induction data generalizing unit with
  | nil => exact .refl
  | cons name data ih => exact Relation.ReflTransGen.head (.declareData unit name) (ih _)

/-- A unit over the same module under another name, for another target and with another time
layout; data objects may be declared in between. -/
def CompilationUnit.rewrapped (unit : CompilationUnit) (data : List String) (name : String)
    (target : Target) (layout : TimeLayout) : CompilationUnit :=
  ((data.foldl declareData unit).rewrap name target).withTimeLayout layout

theorem CompilationUnit.passes_rewrapped (unit : CompilationUnit) (data : List String)
    (name : String) (target : Target) (layout : TimeLayout) :
    unit.Passes (unit.rewrapped data name target layout) :=
  (passes_declareData data unit).tail (.rewrap _ name target layout)

namespace Holder

/-- What can happen to a module, whoever has it.  Every step may succeed or stop.  A module is
wrapped anew after its provider has given the emitter back, or while the provider has it. -/
inductive Step : Holder -> Holder -> Prop where
  | serve (provider : Provider) (wanted : Request) :
      Step (.provider provider) (.provider ((Provider.request wanted).leaves provider))
  | declare (holder : Holder) (name : String) (sig : Signature) :
      Step holder (holder.after (CompilationUnit.declareImport name sig))
  | define (holder : Holder) (name : String) (sig : Signature) (linkage : Linkage) (body : Body) :
      Step holder (holder.after (CompilationUnit.define name sig linkage body))
  | lend (holder : Holder) (config : Config) : Step holder (.provider (.start holder.unit config))
  | rewrap (holder : Holder) (data : List String) (name : String) (target : Target)
      (layout : TimeLayout) :
      Step holder (.emitter (holder.unit.rewrapped data name target layout))
  | exchange (provider : Provider) (data : List String) (name : String) (target : Target)
      (layout : TimeLayout) :
      Step (.provider provider)
        (.provider { provider with unit := provider.unit.rewrapped data name target layout })

/-- What may have happened after any number of steps. -/
abbrev Reaches : Holder -> Holder -> Prop :=
  Relation.ReflTransGen Step

theorem unit_after {α : Type} (action : Action CompilationUnit α) (holder : Holder) :
    (holder.after action).unit = action.leaves holder.unit := by
  cases holder with
  | emitter unit => rfl
  | provider lent =>
      have hleaves : (Provider.onUnit action).leaves lent =
          { lent with unit := action.leaves lent.unit } :=
        Action.leaves_onPart action _ _ lent
      simp only [after, hleaves, unit]

theorem Step.passes {before after : Holder} (h : Step before after) :
    before.unit.Passes after.unit := by
  cases h with
  | serve provider wanted => exact Provider.passes_request wanted provider
  | declare holder name sig =>
      rw [unit_after]
      exact .single (.declare before.unit name sig)
  | define holder name sig linkage body =>
      rw [unit_after]
      exact .single (.define before.unit name sig linkage body)
  | lend holder config => exact .single (.tell before.unit _ (by simp))
  | rewrap holder data name target layout =>
      exact before.unit.passes_rewrapped data name target layout
  | exchange provider data name target layout =>
      exact provider.unit.passes_rewrapped data name target layout

theorem Reaches.passes {first last : Holder} (h : Reaches first last) :
    first.unit.Passes last.unit := by
  induction h with
  | refl => exact .refl
  | tail _ hstep ih => exact ih.trans hstep.passes

/-! ## Definitions that last -/

variable {σ : Type}

/-- From now on a name stands for a function with the given signature and code, and every program
that is linked finds the function under its name and has its code. -/
def Lasts (holder : Holder) (table : HostTable (HostFunction σ)) (name : String) (id : FuncId)
    (signature : MachineSignature) (procedure : Procedure) : Prop :=
  forall last, holder.Reaches last ->
    last.unit.module.Defines name id signature procedure ∧
      forall entries program log,
        Session.link { unit := last.unit, table := table } entries = .ok (program, log) ->
          program.code id = .ok procedure ∧ program.lookup name = .ok id

end Holder

theorem Executable.code_of_defines {σ : Type} {program : Executable σ} {name : String} {id : FuncId}
    {signature : MachineSignature} {procedure : Procedure}
    (h : program.module.Defines name id signature procedure) :
    program.code id = .ok procedure ∧ program.lookup name = .ok id := by
  rcases h.declaration with ⟨linkage, hdefinable, hdeclaration⟩
  constructor
  · simp only [code, hdeclaration, hdefinable, Bool.not_true, Bool.false_eq_true, if_false]
  · simp only [lookup, h.lookup]

theorem Session.eq_of_link {σ : Type} {session : Session σ} {entries : List FuncId}
    {program : Executable σ} {log : Log} (h : session.link entries = .ok (program, log)) :
    program = session.executable := by
  unfold Session.link at h
  split at h
  · cases h
  · cases h
    rfl

theorem Holder.lasts_of_defines {σ : Type} {holder : Holder} {name : String} {id : FuncId}
    {signature : MachineSignature} {procedure : Procedure}
    (h : holder.unit.module.Defines name id signature procedure)
    (table : HostTable (HostFunction σ)) : holder.Lasts table name id signature procedure := by
  intro last hlast
  have hdefines := h.keeps hlast.passes.keeps
  refine ⟨hdefines, ?_⟩
  intro entries program log hlink
  rw [Session.eq_of_link hlink]
  exact Executable.code_of_defines hdefines

section Definitions

variable {σ : Type} {name : String} {target : Target} {table : HostTable (HostFunction σ)}
  {holder : Holder}

theorem Session.not_defined_of_start (name : String) (target : Target)
    (table : HostTable (HostFunction σ)) (function : String) (linkage : Linkage) :
    Event.defined function linkage ∉ (start name target table).unit.log := by
  simp [start, CompilationUnit.ofModule, openingLog]

/-- Every definition that succeeds in a session lasts.  That goes for a caller's and for every one
that is told of, which are those of requests too: it has succeeded on a unit on the way. -/
theorem Session.definitions_last
    (h : (Holder.emitter (start name target table).unit).Reaches holder) :
    (forall function sig linkage body id,
      (CompilationUnit.define function sig linkage body).answer holder.unit = .ok id ->
        exists procedure, holder.unit.procedure function sig body = .ok procedure ∧
          (holder.after (CompilationUnit.define function sig linkage body)).Lasts table function id
            (holder.unit.signature sig) procedure) ∧
    (forall function linkage, Event.defined function linkage ∈ holder.unit.log ->
      exists unit sig body id procedure, (start name target table).unit.Passes unit ∧
        (CompilationUnit.define function sig linkage body).answer unit = .ok id ∧
          ((CompilationUnit.define function sig linkage body).leaves unit).Passes holder.unit ∧
            unit.procedure function sig body = .ok procedure ∧
              holder.Lasts table function id (unit.signature sig) procedure) := by
  constructor
  · intro function sig linkage body id hid
    rcases CompilationUnit.defines_of_define hid with ⟨procedure, hprocedure, hdefines⟩
    rw [← Holder.unit_after] at hdefines
    exact ⟨procedure, hprocedure, Holder.lasts_of_defines hdefines table⟩
  · intro function linkage hevent
    rcases h.passes.exists_define hevent (not_defined_of_start name target table function linkage)
      with ⟨unit, sig, body, id, hbefore, hid, hafter⟩
    rcases CompilationUnit.defines_of_define hid with ⟨procedure, hprocedure, hdefines⟩
    have hstill := hdefines.keeps hafter.keeps
    exact ⟨unit, sig, body, id, procedure, hbefore, hid, hafter, hprocedure,
      Holder.lasts_of_defines hstill table⟩

/-- A provider defines a square root, and a caller another one after it. -/
theorem Session.definitions_last_roots :
    let first : Session Unit := start "unit" { os := .posix, intWidth := .unspecified } .empty
    let lent := Provider.start first.unit .standard
    let holder := Holder.provider ((Provider.request (.elementary .sqrt .float64)).leaves lent)
    let define := CompilationUnit.define "root" (ElementaryFunction.signature .float32) .hidden
      (Routine.wrapper .sqrt)
    (Holder.emitter first.unit).Reaches holder ∧
      Event.defined "intrinsic.sqrt.f64" .internal ∈ holder.unit.log ∧
        define.answer holder.unit = .ok { index := 1 } ∧
          (exists id signature procedure,
            holder.Lasts first.table "intrinsic.sqrt.f64" id signature procedure) ∧
          (exists signature procedure,
            (holder.after define).Lasts first.table "root" { index := 1 } signature procedure) := by
  intro first lent holder define
  have hlend := Holder.Step.lend (.emitter first.unit) .standard
  have hserve := Holder.Step.serve lent (.elementary .sqrt .float64)
  have hholder : (Holder.emitter first.unit).Reaches holder :=
    (Relation.ReflTransGen.single hlend).tail hserve
  have htold : Event.defined "intrinsic.sqrt.f64" .internal ∈ holder.unit.log := by
    decide +kernel
  have hid : define.answer holder.unit = .ok { index := 1 } := by
    decide +kernel
  rcases definitions_last hholder with ⟨hdirect, hevents⟩
  rcases hdirect _ _ _ _ _ hid with ⟨procedure, _, hlast⟩
  rcases hevents _ _ htold with ⟨unit, sig, _, id, other, _, _, _, _, hother⟩
  exact ⟨hholder, htold, hid, ⟨id, _, other, hother⟩, ⟨_, procedure, hlast⟩⟩

end Definitions
end Provision
