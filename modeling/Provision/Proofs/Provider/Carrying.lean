import Provision.Proofs.Provider.Planned
import Provision.Proofs.Script.Outcome

/-!
# Carrying out plans

A request carries out the plans of its primitive one after the other, whatever else the module
holds.  The function of a plan is there already, or it is made under a free name, or the plan is
refused, which ends the request.
-/

namespace Provision

/-! ## Making the function of a plan -/

namespace Plan

/-- Makes the function of a plan, whose callees have the given numbers. -/
def make (plan : Plan) (number : FuncId -> FuncId) : Action CompilationUnit FuncId :=
  match plan.body with
  | none => CompilationUnit.declareImport plan.symbol.name plan.sig
  | some body =>
      CompilationUnit.define plan.symbol.name plan.sig plan.linkage (body.renumber number)

/-- The code that a plan is made to in a unit, if it is to have code. -/
def code (plan : Plan) (unit : CompilationUnit) (number : FuncId -> FuncId) :
    Except Stop (Option Procedure) :=
  match plan.body with
  | none => .ok none
  | some body => (unit.procedure plan.symbol.name plan.sig (body.renumber number)).map some

/-- A declaration is what a plan is made to in a unit, over the functions that go by the names of
its callees there. -/
structure Yields (plan : Plan) (unit : CompilationUnit) (declaration : Declaration) : Prop where
  name : declaration.name = plan.symbol.name
  linkage : declaration.linkage = plan.linkage
  signature : declaration.signature = unit.signature plan.sig
  code : exists number, plan.Resolves unit number ∧ plan.code unit number = .ok declaration.code

variable {plan : Plan} {unit : CompilationUnit} {number : FuncId -> FuncId}

/-- The slots of a body that is accepted fit into a frame, whatever the body is compiled to. -/
theorem IsAccepted.fitFrame (h : plan.IsAccepted) {body : Body} (hbody : plan.body = some body) :
    StackSlot.fitFrame body.script.slots = true := by
  rcases h.spec hbody with ⟨_, compiled, hcompiled, hfits, _⟩
  unfold Body.compiled? at hcompiled
  split at hcompiled
  · cases hcompiled
  · cases hbuild : (body.build (Site.reference plan.sig (Outline.called plan.callees))).1 with
    | error stop =>
        rw [hbuild] at hcompiled
        cases hcompiled
    | ok built =>
        rw [hbuild] at hcompiled
        simp only [Option.ite_none_right_eq_some, Option.some.injEq] at hcompiled
        rcases hcompiled with ⟨_, rfl⟩
        have hslots := (Body.outcome_of_build hbuild).right
        rw [← hslots]
        exact hfits

/-- Under a free name the function of a plan is made, or the plan is refused and the unit stays as
it was. -/
theorem make_cases (h : plan.IsAccepted) (hresolves : plan.Resolves unit number)
    (hfree : unit.lookup? plan.symbol.name = none) :
    (exists declaration log, plan.Yields unit declaration ∧
      plan.make number unit = .ok { index := unit.module.functions.length }
        { unit with module := unit.module.push declaration, log := log }) ∨
      exists stop, plan.make number unit = .error stop unit := by
  unfold make
  cases hbody : plan.body with
  | none =>
      rw [IsAccepted, hbody] at h
      by_cases hdata : plan.symbol.name ∈ unit.module.data
      · exact .inr ⟨_, CompilationUnit.declareImport_of_data hfree hdata⟩
      · refine .inl ⟨_, _, ⟨rfl, h.symm, rfl, number, hresolves, ?_⟩,
          CompilationUnit.declareImport_of_free hfree hdata⟩
        simp only [code, hbody]
  | some body =>
      have hlinkage := (h.spec hbody).left
      cases hprocedure : unit.procedure plan.symbol.name plan.sig (body.renumber number) with
      | error stop => exact .inr ⟨stop, CompilationUnit.define_of_stop hprocedure⟩
      | ok procedure =>
          by_cases hdata : plan.symbol.name ∈ unit.module.data
          · exact .inr ⟨_, CompilationUnit.define_of_data hprocedure hfree hdata⟩
          · have hslots : procedure.slots = body.script.slots := by
              rw [CompilationUnit.slots_of_procedure hprocedure, Body.renumber,
                Script.slots_renumber]
            have hfits : StackSlot.fitFrame procedure.slots = true := by
              rw [hslots]
              exact h.fitFrame hbody
            refine .inl ⟨_, _, ⟨rfl, rfl, rfl, number, hresolves, ?_⟩,
              CompilationUnit.define_of_free hprocedure hfree hdata hlinkage hfits⟩
            simp only [code, hbody, hprocedure]
            rfl

end Plan

/-! ## What a fault comes from -/

/-- A fault without what was said about it on the way. -/
def Fault.root : Fault -> Fault
  | unresolved _ cause => cause.root
  | fault => fault

def Stop.root : Stop -> Stop
  | fault reason => .fault reason.root
  | misuse reason => .misuse reason

namespace Provider

open CompilationUnit

/-! ## One plan -/

/-- A unit tells something more. -/
def logging (provider : Provider) (log : Log) : Provider :=
  { provider with unit := { provider.unit with log := log } }

/-- Nothing has changed but the unit and the registry, which has the function of one more symbol. -/
structure Registers (symbol : Symbol) (id : FuncId) (before after : Provider) : Prop where
  config : after.config = before.config
  clock : after.clock = before.clock
  currentTime : after.currentTime = before.currentTime
  registered : after.registry.find? symbol = some id
  others : forall other, other ≠ symbol ->
    after.registry.find? other = before.registry.find? other

/-- A provider has got the function of a plan: the module had it, or it has been made. -/
inductive Gets (plan : Plan) (id : FuncId) (before after : Provider) : Prop where
  | known (h : Registers plan.symbol id before after)
      (hlookup : before.unit.lookup? plan.symbol.name = some id)
      (hunit : before.unit.Alike after.unit)
  | made (h : Registers plan.symbol id before after)
      (hfree : before.unit.lookup? plan.symbol.name = none) (declaration : Declaration) (log : Log)
      (hyields : plan.Yields before.unit declaration)
      (hid : id = { index := before.unit.module.functions.length })
      (hunit : after.unit =
        { before.unit with module := before.unit.module.push declaration, log := log })

/-- A plan is refused: its name is free, but the function could not be made. -/
structure Refuses (plan : Plan) (stop : Stop) (before after : Provider) : Prop where
  free : before.unit.lookup? plan.symbol.name = none
  unregistered : before.registry.find? plan.symbol = none
  cause : exists number log, plan.Resolves before.unit number ∧
    (plan.make number).answer { before.unit with log := log } = .error stop
  after : exists log, after = before.logging log

variable {plan : Plan} {provider : Provider}

theorem registers_insert {symbol : Symbol} {id : FuncId} (unit : CompilationUnit) :
    Registers symbol id provider
      { provider with unit := unit, registry := provider.registry.insert symbol id } where
  config := rfl
  clock := rfl
  currentTime := rfl
  registered := Registry.find?_insert_self _ _ _
  others := fun _ hother => Registry.find?_insert_of_ne _ id hother

/-- Obtaining the function of a plan ends in one of these ways.  Something may be told before the
function is made. -/
theorem Coherent.obtain_cases (h : Coherent provider) (haccepted : plan.IsAccepted)
    {number : FuncId -> FuncId} (hresolves : plan.Resolves provider.unit number)
    {make : Action CompilationUnit FuncId}
    (hmake : exists log, make provider.unit = plan.make number { provider.unit with log := log }) :
    (exists id after, obtain plan.symbol make provider = .ok id after ∧
      Gets plan id provider after) ∨
      exists stop after, obtain plan.symbol make provider = .error stop after ∧
        Refuses plan stop provider after := by
  rcases hmake with ⟨log, hmake⟩
  cases hfind : provider.registry.find? plan.symbol with
  | some id =>
      have hlookup := h.registered plan.symbol id hfind
      have hrun : obtain plan.symbol make provider = .ok id _ := obtain_of_registered hfind
      refine .inl ⟨id, _, hrun, .known ⟨rfl, rfl, rfl, hfind, fun _ _ => rfl⟩ hlookup ⟨_, rfl⟩⟩
  | none =>
      cases hlookup : provider.unit.lookup? plan.symbol.name with
      | some id =>
          have hrun : obtain plan.symbol make provider = .ok id _ := obtain_of_known hfind hlookup
          exact .inl ⟨id, _, hrun, .known (registers_insert _) hlookup ⟨_, rfl⟩⟩
      | none =>
          let told : CompilationUnit := { provider.unit with log := log }
          have hresolvesTold : plan.Resolves told number := hresolves
          rcases Plan.make_cases haccepted hresolvesTold hlookup with
            ⟨declaration, later, hyields, hmade⟩ | ⟨stop, hstopped⟩
          · rw [← hmake] at hmade
            have hrun : obtain plan.symbol make provider = .ok _ _ :=
              obtain_of_made hfind hlookup hmade
            have hyieldsUntold : plan.Yields provider.unit declaration :=
              ⟨hyields.name, hyields.linkage, hyields.signature, hyields.code⟩
            exact .inl ⟨_, _, hrun,
              .made (registers_insert _) hlookup declaration later hyieldsUntold rfl rfl⟩
          · have hrun : obtain plan.symbol make provider = .error stop _ :=
              obtain_of_stopped hfind hlookup (hmake.trans hstopped)
            have hcause : (plan.make number).answer told = .error stop := by
              rw [Action.answer, hstopped]
            exact .inr ⟨stop, _, hrun, hlookup, hfind, ⟨number, log, hresolves, hcause⟩, log, rfl⟩

namespace Gets

variable {id : FuncId} {before after : Provider}

theorem registers (h : Gets plan id before after) : Registers plan.symbol id before after := by
  cases h with
  | known h _ _ => exact h
  | made h _ _ _ _ _ _ => exact h

theorem lookup? (h : Gets plan id before after) :
    after.unit.lookup? plan.symbol.name = some id := by
  cases h with
  | known _ hlookup hunit => exact hunit.appends.grows.lookup? hlookup
  | made _ hfree declaration log hyields hid hunit =>
      rw [hunit, hid, ← hyields.name]
      apply Module.lookup?_push_self
      rw [hyields.name]
      exact hfree

theorem appends (h : Gets plan id before after) : before.Appends after := by
  refine ⟨?_, h.registers.config, h.registers.clock⟩
  cases h with
  | known _ _ hunit => exact hunit.appends
  | made _ hfree declaration log hyields _ hunit =>
      rw [hunit]
      apply appends_push
      rw [hyields.name]
      exact hfree

theorem coherent (h : Gets plan id before after) (hcoherent : Coherent before) :
    Coherent after := by
  have hgrows := h.appends.unit.grows
  have hstill := hcoherent.onUnit hgrows
  refine ⟨?_, ?_, ?_, ?_⟩
  · rw [h.registers.clock]
    exact hstill.origin
  · intro symbol found hfound
    by_cases heq : symbol = plan.symbol
    · rw [heq, h.registers.registered] at hfound
      cases hfound
      rw [heq]
      exact h.lookup?
    · rw [h.registers.others symbol heq] at hfound
      exact hstill.registered symbol found hfound
  · rw [h.registers.currentTime]
    exact hstill.remembered
  · rw [h.registers.currentTime, h.registers.clock]
    exact hstill.clocked

/-- What was registered before still is, and for the same function. -/
theorem find?_of_find? (h : Gets plan id before after) (hcoherent : Coherent before)
    {symbol : Symbol} {found : FuncId} (hfound : before.registry.find? symbol = some found) :
    after.registry.find? symbol = some found := by
  by_cases heq : symbol = plan.symbol
  · have hlookup := hcoherent.registered symbol found hfound
    have hstill := h.appends.unit.grows.lookup? hlookup
    rw [heq, h.lookup?] at hstill
    rw [heq, h.registers.registered]
    exact hstill
  · rw [h.registers.others symbol heq]
    exact hfound

end Gets

/-! ## Plans in turn -/

/-- A provider carries out plans one after the other, and tells something at last. -/
inductive Obtains (before : Provider) : List Plan -> Provider -> Prop where
  | nil (log : Log) : Obtains before [] (before.logging log)
  | snoc {plans : List Plan} {middle after : Provider} (h : Obtains before plans middle)
      {plan : Plan} {id : FuncId} (hgets : Gets plan id middle after) (log : Log) :
      Obtains before (plans ++ [plan]) (after.logging log)

namespace Obtains

variable {before middle after : Provider} {plans more : List Plan}

theorem refl (provider : Provider) : Obtains provider [] provider :=
  .nil provider.unit.log

theorem logging (h : Obtains before plans after) (log : Log) :
    Obtains before plans (after.logging log) := by
  cases h with
  | nil => exact .nil log
  | snoc h hgets => exact .snoc h hgets log

theorem get (h : Obtains before plans middle) {id : FuncId} (hgets : Gets plan id middle after) :
    Obtains before (plans ++ [plan]) after :=
  .snoc h hgets after.unit.log

theorem trans (h : Obtains before plans middle) (hmore : Obtains middle more after) :
    Obtains before (plans ++ more) after := by
  induction hmore with
  | nil log =>
      rw [List.append_nil]
      exact h.logging log
  | snoc _ hgets log ih =>
      rw [← List.append_assoc]
      exact .snoc ih hgets log

end Obtains

/-- What an action that carries out plans ends in: a function of the last one, or a stop at the
first one that is refused. -/
inductive Outcome (plans : List Plan) (before : Provider) : Except Stop FuncId -> Provider -> Prop
    where
  | carried {first : List Plan} {last : Plan} {id : FuncId} {after : Provider}
      (hplans : plans = first ++ [last]) (h : Obtains before plans after)
      (hid : after.registry.find? last.symbol = some id) : Outcome plans before (.ok id) after
  | refused {done rest : List Plan} {failed : Plan} {stop cause : Stop} {middle after : Provider}
      (hplans : plans = done ++ failed :: rest) (h : Obtains before done middle)
      (hrefuses : Refuses failed cause middle after) (hroot : stop.root = cause.root) :
      Outcome plans before (.error stop) after

/-- An action carries out plans. -/
abbrev Performs (action : Action Provider FuncId) (provider : Provider) (plans : List Plan) :
    Prop :=
  Outcome plans provider (action.answer provider) (action.leaves provider)

theorem Coherent.obtain_performs (h : Coherent provider) (haccepted : plan.IsAccepted)
    {number : FuncId -> FuncId} (hresolves : plan.Resolves provider.unit number)
    {make : Action CompilationUnit FuncId}
    (hmake : exists log, make provider.unit = plan.make number { provider.unit with log := log }) :
    Performs (obtain plan.symbol make) provider [plan] := by
  unfold Performs Action.answer Action.leaves
  rcases h.obtain_cases haccepted hresolves hmake with
    ⟨id, after, hrun, hgets⟩ | ⟨stop, after, hrun, hrefuses⟩
  · rw [hrun]
    exact .carried (List.nil_append _).symm ((Obtains.refl provider).get hgets)
      hgets.registers.registered
  · rw [hrun]
    exact .refused (List.nil_append _).symm (.refl provider) hrefuses rfl

theorem Performs.mapFault {action : Action Provider FuncId} {plans : List Plan}
    (h : Performs action provider plans) (name : String) :
    Performs (Action.mapFault (.unresolved name) action) provider plans := by
  unfold Performs at h ⊢
  rw [Action.answer_mapFault, Action.leaves_mapFault]
  cases hanswer : action.answer provider with
  | ok id =>
      rw [hanswer] at h
      exact h
  | error stop =>
      rw [hanswer] at h
      cases h with
      | refused hplans hobtains hrefuses hroot =>
          cases stop with
          | fault reason => exact .refused hplans hobtains hrefuses hroot
          | misuse reason => exact .refused hplans hobtains hrefuses hroot

/-- Actions carry out their plans in turn. -/
theorem Performs.bind {action : Action Provider FuncId} {next : FuncId -> Action Provider FuncId}
    {plans more : List Plan} (h : Performs action provider plans)
    (hnext : forall id, action.answer provider = .ok id ->
      Performs (next id) (action.leaves provider) more) :
    Performs (action >>= next) provider (plans ++ more) := by
  unfold Performs at h hnext ⊢
  rw [Action.answer_bind, Action.leaves_bind]
  cases hanswer : action.answer provider with
  | error stop =>
      rw [hanswer] at h
      cases h with
      | refused hplans hobtains hrefuses hroot =>
          rw [hplans, List.append_assoc, List.cons_append]
          exact .refused rfl hobtains hrefuses hroot
  | ok id =>
      rw [hanswer] at h
      have hthen := hnext id hanswer
      cases h with
      | carried _ hobtains _ =>
          simp only
          cases hlast : (next id).answer (action.leaves provider) with
          | ok last =>
              rw [hlast] at hthen
              cases hthen with
              | carried hplans hmore hid =>
                  rw [hplans, ← List.append_assoc]
                  rw [hplans] at hmore
                  refine .carried rfl ?_ hid
                  rw [List.append_assoc]
                  exact hobtains.trans hmore
          | error stop =>
              rw [hlast] at hthen
              cases hthen with
              | refused hplans hmore hrefuses hroot =>
                  rw [hplans, ← List.append_assoc]
                  exact .refused rfl (hobtains.trans hmore) hrefuses hroot

end Provider
end Provision
