import Provision.Proofs.Script.Renumber
import Provision.Module.CompilationUnit

/-!
# What scripts are emitted to, or why not

A procedure has the stack slots that its script reserves, wherever it is emitted and whatever it
calls, so that the script shows whether they fit into a frame.  Emission that stops at a fault stops
at the first step that has one, at whichever depth the step is.
-/

namespace Provision

/-! ## Slots and faults of a script -/

namespace Step

def slots : Step -> List StackSlot
  | reserve _ size alignShift => [{ size := size, alignShift := alignShift }]
  | _ => []

/-- The fault at which a step stops when all that it uses is there: the script asks for one, or for
a result of a function that returns nothing. -/
def fault? (site : Site) : Step -> Option Fault
  | callFirst _ callee _ =>
      if (site.signatureOf? callee).any fun signature => signature.returns.isEmpty then
        some (.noResult callee)
      else none
  | fail type => some (.unsupported "body" type)
  | _ => none

theorem slots_renumber (number : FuncId -> FuncId) (step : Step) :
    (step.renumber number).slots = step.slots := by
  cases step
  all_goals rfl

end Step

namespace Script

/-- Slots in the order in which a script reserves them. -/
def slots : Script -> List StackSlot
  | .done => []
  | .step first rest => first.slots ++ slots rest
  | .loop _ body rest => slots body ++ slots rest

/-- The fault of the first step that has one. -/
def fault? (site : Site) : Script -> Option Fault
  | .done => none
  | .step first rest => (first.fault? site).or (fault? site rest)
  | .loop _ body rest => (fault? site body).or (fault? site rest)

theorem slots_renumber (number : FuncId -> FuncId) (script : Script) :
    slots (script.renumber number) = script.slots := by
  induction script with
  | done => rfl
  | step first rest ih => simp only [renumber, slots, Step.slots_renumber, ih]
  | loop head body rest ihBody ihRest => simp only [renumber, slots, ihBody, ihRest]

theorem fault?_cases {site : Site} {script : Script} {fault : Fault}
    (h : script.fault? site = some fault) :
    (exists callee, fault = .noResult callee) ∨ exists type, fault = .unsupported "body" type := by
  induction script with
  | done => cases h
  | step first rest ih =>
      rcases Option.or_eq_some_iff.mp h with hfirst | ⟨_, hrest⟩
      · unfold Step.fault? at hfirst
        split at hfirst
        · split at hfirst
          all_goals cases hfirst
          exact .inl ⟨_, rfl⟩
        · cases hfirst
          exact .inr ⟨_, rfl⟩
        · cases hfirst
      · exact ih hrest
  | loop head body rest ihBody ihRest =>
      rcases Option.or_eq_some_iff.mp h with hbody | ⟨_, hrest⟩
      · exact ihBody hbody
      · exact ihRest hrest

end Script

/-! ## Emission -/

namespace Emit

variable {α β : Type}

/-- Unless the script is misuse, an action with a fault stops at it, and one without comes to its
end and has reserved the given slots. -/
def Does (slots : List StackSlot) (fault? : Option Fault) (action : Emit α) : Prop :=
  forall builder,
    match action builder with
    | .ok _ after => fault? = none ∧ after.slots = builder.slots ++ slots
    | .error (.fault fault) _ => fault? = some fault
    | .error (.misuse misuse) _ => misuse.IsOfScript

/-- An action that reserves nothing and has no fault. -/
abbrev Plain (action : Emit α) : Prop :=
  Does [] none action

theorem plain_pure (x : α) : Plain (pure x : Emit α) :=
  fun _ => ⟨rfl, (List.append_nil _).symm⟩

theorem does_misuse (slots : List StackSlot) (fault? : Option Fault) {misuse : Misuse}
    (h : misuse.IsOfScript) : Does slots fault? (Action.misuse misuse : Emit α) :=
  fun _ => h

theorem does_fault (slots : List StackSlot) (fault : Fault) :
    Does slots (some fault) (Action.fault fault : Emit α) :=
  fun _ => rfl

theorem plain_modify {change : Builder -> Builder}
    (h : forall builder, (change builder).slots = builder.slots) :
    Plain (modify change : Emit Unit) := by
  intro builder
  refine ⟨rfl, ?_⟩
  rw [List.append_nil]
  exact h builder

/-- What comes next may depend on what the first action can answer. -/
theorem Does.bind_of_answer {first second : List StackSlot}
    {firstFault? secondFault? : Option Fault}
    {action : Emit α} {next : α -> Emit β} (h : Does first firstFault? action)
    (hnext : forall builder x after, action builder = .ok x after ->
      Does second secondFault? (next x)) :
    Does (first ++ second) (firstFault?.or secondFault?) (action >>= next) := by
  intro builder
  have hfirst := h builder
  rw [Action.run_bind]
  cases hrun : action builder with
  | error stop middle =>
      rw [hrun] at hfirst
      cases stop with
      | fault fault =>
          simp only at hfirst ⊢
          rw [hfirst, Option.some_or]
      | misuse misuse => exact hfirst
  | ok x middle =>
      rw [hrun] at hfirst
      rcases hfirst with ⟨hfault, hslots⟩
      have hsecond := hnext builder x middle hrun middle
      rw [hfault, Option.none_or]
      simp only
      cases hlast : next x middle with
      | error stop after =>
          rw [hlast] at hsecond
          cases stop with
          | fault fault => exact hsecond
          | misuse misuse => exact hsecond
      | ok y after =>
          rw [hlast] at hsecond
          rcases hsecond with ⟨hnone, hmore⟩
          refine ⟨hnone, ?_⟩
          rw [hmore, hslots, List.append_assoc]

theorem Does.bind {first second : List StackSlot} {firstFault? secondFault? : Option Fault}
    {action : Emit α} {next : α -> Emit β} (h : Does first firstFault? action)
    (hnext : forall x, Does second secondFault? (next x)) :
    Does (first ++ second) (firstFault?.or secondFault?) (action >>= next) :=
  h.bind_of_answer fun _ x _ _ => hnext x

/-- A plain action may come before others. -/
theorem Does.then {slots : List StackSlot} {fault? : Option Fault} {action : Emit α}
    {next : α -> Emit β} (h : Plain action) (hnext : forall x, Does slots fault? (next x)) :
    Does slots fault? (action >>= next) :=
  h.bind hnext

/-- A plain action may come after others. -/
theorem Does.plain {slots : List StackSlot} {fault? : Option Fault} {action : Emit α}
    {next : α -> Emit β} (h : Does slots fault? action) (hnext : forall x, Plain (next x)) :
    Does slots fault? (action >>= next) := by
  have hbind := h.bind hnext
  rw [List.append_nil, Option.or_none] at hbind
  exact hbind

theorem Does.get_bind {slots : List StackSlot} {fault? : Option Fault} {next : Builder -> Emit α}
    (h : forall builder, Does slots fault? (next builder)) : Does slots fault? (get >>= next) :=
  fun builder => h builder builder

/-- Whatever is added to a builder, a slot is no part of it. -/
theorem building_plain : Building Plain where
  pure := plain_pure
  misuse := does_misuse _ _
  bind := fun h hnext => h.then hnext
  look := fun h _ => .get_bind h
  fresh := fun _ _ => ⟨rfl, (List.append_nil _).symm⟩
  append := fun _ => plain_modify fun _ => rfl
  modify := fun h => plain_modify h.slots

theorem plain_drain : Plain drain := by
  intro builder
  exact ⟨rfl, (List.append_nil _).symm⟩

/-! ### Slots and calls -/

variable (site : Site)

theorem does_reserve (size alignShift : Nat) :
    Does [{ size := size, alignShift := alignShift }] none (reserve site size alignShift) :=
  fun _ => ⟨rfl, rfl⟩

theorem plain_call (callee : FuncId) (arguments : List ValueId) :
    Plain (call site callee arguments) := by
  unfold call
  cases site.signatureOf? callee with
  | none => exact does_misuse _ _ trivial
  | some signature =>
      refine (building_plain.freshAll _).then fun results => ?_
      exact (plain_modify fun _ => rfl).then fun _ => plain_pure results

theorem isEmpty_of_freshAll {types : List MachineType} {builder after : Builder}
    {results : List ValueId} (h : freshAll types builder = .ok results after) :
    results.isEmpty = types.isEmpty := by
  cases types with
  | nil =>
      cases h
      rfl
  | cons type rest =>
      unfold freshAll at h
      rw [Action.run_bind] at h
      cases hfresh : fresh type builder with
      | error stop middle =>
          rw [hfresh] at h
          cases h
      | ok value middle =>
          rw [hfresh] at h
          simp only [Action.run_bind] at h
          cases hrest : freshAll rest middle with
          | error stop last =>
              rw [hrest] at h
              cases h
          | ok values last =>
              rw [hrest] at h
              cases h
              rfl

theorem isEmpty_of_call {callee : FuncId} {arguments results : List ValueId}
    {builder after : Builder} (h : call site callee arguments builder = .ok results after) :
    exists signature, site.signatureOf? callee = some signature ∧
      results.isEmpty = signature.returns.isEmpty := by
  unfold call at h
  cases hsignature : site.signatureOf? callee with
  | none =>
      rw [hsignature] at h
      cases h
  | some signature =>
      rw [hsignature] at h
      simp only [Action.run_bind] at h
      cases hfresh : freshAll signature.returns builder with
      | error stop middle =>
          rw [hfresh] at h
          cases h
      | ok values middle =>
          rw [hfresh] at h
          cases h
          exact ⟨signature, rfl, isEmpty_of_freshAll hfresh⟩

theorem does_callFirst (result : String) (callee : FuncId) (names : List String)
    (arguments : List ValueId) :
    Does [] ((Step.callFirst result callee names).fault? site)
      (callFirst site callee arguments) := by
  refine (plain_call site callee arguments).bind_of_answer fun builder results after hcall => ?_
  rcases isEmpty_of_call site hcall with ⟨signature, hsignature, hempty⟩
  simp only [hsignature, Option.any_some]
  rw [<- hempty]
  cases results with
  | nil => exact does_fault _ _
  | cons result rest => exact plain_pure _

end Emit

/-! ## Steps and scripts -/

open Emit

/-- Values are looked up and computed from; only a reservation reserves something, and only two
kinds of steps have a fault. -/
theorem Step.does_emit (site : Site) (step : Step) :
    Does step.slots (step.fault? site) (step.emit site) := by
  cases step
  case reserve result size alignShift =>
      exact (does_reserve site size alignShift).plain fun _ => building_plain.bindName result _
  case call results callee names =>
      refine (building_plain.valuesOf names).then fun arguments => ?_
      refine (plain_call site callee arguments).then fun returned => ?_
      exact (building_plain.note _).then fun _ => building_plain.bindAll results returned
  case callFirst result callee names =>
      refine (building_plain.valuesOf names).then fun arguments => ?_
      exact (does_callFirst site result callee names arguments).plain fun returned =>
        building_plain.bindName result returned
  case fail => exact does_fault _ _
  all_goals exact building_plain.step site rfl

theorem Region.does_emit (site : Site) (script : Script) :
    Does script.slots (script.fault? site) (Region.emit site script) := by
  induction script with
  | done => exact plain_pure _
  | step first rest ih =>
      refine (first.does_emit site).bind fun _ => plain_drain.then fun instructions => ?_
      exact ih.plain fun code => plain_pure (Region.prepend instructions code)
  | loop head body rest ihBody ihRest =>
      refine (building_plain.computing.start head).then fun (bound, origin) => ?_
      refine plain_drain.then fun before => building_plain.locals.then fun outer => ?_
      refine (building_plain.openLoop origin outer).then fun (index, inner) => ?_
      refine (building_plain.header head index bound).then fun test => ?_
      refine plain_drain.then fun instructions => ihBody.bind fun pass => ?_
      refine (building_plain.compute _).then fun next => plain_drain.then fun last => ?_
      refine building_plain.locals.then fun after => ?_
      refine (building_plain.carried _ _ _).then fun carried => ?_
      refine (building_plain.closeLoop index inner).then fun _ => ?_
      exact ihRest.plain fun code => plain_pure _

/-! ## Bodies -/

theorem Body.does_emit (site : Site) (body : Body) :
    Does body.script.slots (body.script.fault? site) (body.emit site) := by
  refine (Region.does_emit site body.script).plain fun code => ?_
  exact (building_plain.valuesOf _).then fun results => plain_pure _

namespace Body

variable {site : Site} {body : Body} {procedure : Procedure}

theorem build_eq_ok (h : (body.build site).1 = .ok procedure) :
    exists code results builder,
      body.emit site (Builder.start site.signature.params (body.locals site)) =
          .ok (code, results) builder ∧
        procedure = body.procedure site code results builder := by
  unfold build at h
  cases hrun : body.emit site (Builder.start site.signature.params (body.locals site)) with
  | error stop builder =>
      rw [hrun] at h
      cases h
  | ok emitted builder =>
      rw [hrun] at h
      cases h
      exact ⟨emitted.1, emitted.2, builder, rfl, rfl⟩

theorem build_eq_error {stop : Stop} (h : (body.build site).1 = .error stop) :
    exists builder,
      body.emit site (Builder.start site.signature.params (body.locals site)) =
        .error stop builder := by
  unfold build at h
  cases hrun : body.emit site (Builder.start site.signature.params (body.locals site)) with
  | error reason builder =>
      rw [hrun] at h
      cases h
      exact ⟨builder, rfl⟩
  | ok emitted builder =>
      rw [hrun] at h
      cases h

/-- A body that is built has reserved what its script reserves and has met no fault. -/
theorem outcome_of_build (h : (body.build site).1 = .ok procedure) :
    body.script.fault? site = none ∧ procedure.slots = body.script.slots := by
  have hdoes := body.does_emit site (Builder.start site.signature.params (body.locals site))
  rcases build_eq_ok h with ⟨code, results, builder, hemit, rfl⟩
  rw [hemit] at hdoes
  exact hdoes

/-- A body that is not built has met the fault of its script, or the script is misuse. -/
theorem stop_of_build {stop : Stop} (h : (body.build site).1 = .error stop) :
    match stop with
    | .fault fault => body.script.fault? site = some fault
    | .misuse misuse => misuse.IsOfScript := by
  have hdoes := body.does_emit site (Builder.start site.signature.params (body.locals site))
  rcases build_eq_error h with ⟨builder, hemit⟩
  rw [hemit] at hdoes
  cases stop with
  | fault fault => exact hdoes
  | misuse misuse => exact hdoes

end Body

namespace CompilationUnit

variable {unit : CompilationUnit} {name : String} {sig : Signature} {body : Body}

theorem procedure_eq_ok {procedure : Procedure}
    (h : unit.procedure name sig body = .ok procedure) :
    exists built, (body.build (unit.site sig)).1 = .ok built ∧
      built.check unit.module.signature? = .ok true ∧ procedure = built.fuse := by
  unfold CompilationUnit.procedure at h
  cases hbuild : (body.build (unit.site sig)).1 with
  | error stop =>
      rw [hbuild] at h
      cases h
  | ok built =>
      simp only [hbuild] at h
      split at h
      · rename_i hcheck
        cases h
        exact ⟨built, rfl, hcheck, rfl⟩
      all_goals cases h

/-- Without a procedure the body has not been built, or what it is built to is rejected, or has a
constant of a type that has none. -/
theorem procedure_eq_error {stop : Stop} (h : unit.procedure name sig body = .error stop) :
    (body.build (unit.site sig)).1 = .error stop ∨
      exists built, (body.build (unit.site sig)).1 = .ok built ∧
        (stop = .fault (.rejected name) ∨ stop = .misuse .constantType) := by
  unfold CompilationUnit.procedure at h
  cases hbuild : (body.build (unit.site sig)).1 with
  | error reason =>
      rw [hbuild] at h
      cases h
      exact .inl rfl
  | ok built =>
      refine .inr ⟨built, rfl, ?_⟩
      simp only [hbuild] at h
      split at h
      · cases h
      · cases h
        exact .inl rfl
      · cases h
        exact .inl rfl
      · cases h
        exact .inr rfl

theorem outcome_of_procedure {procedure : Procedure}
    (h : unit.procedure name sig body = .ok procedure) :
    body.script.fault? (unit.site sig) = none ∧ procedure.slots = body.script.slots := by
  rcases procedure_eq_ok h with ⟨built, hbuild, _, rfl⟩
  have houtcome := Body.outcome_of_build hbuild
  exact houtcome

theorem slots_of_procedure {procedure : Procedure}
    (h : unit.procedure name sig body = .ok procedure) : procedure.slots = body.script.slots :=
  (outcome_of_procedure h).right

/-- Without a procedure there is a fault in the script, or what it emits is rejected. -/
theorem fault?_of_procedure {fault : Fault}
    (h : unit.procedure name sig body = .error (.fault fault)) :
    body.script.fault? (unit.site sig) = some fault ∨
      body.script.fault? (unit.site sig) = none ∧ fault = .rejected name := by
  rcases procedure_eq_error h with hbuild | ⟨built, hbuild, hrejected | hmisused⟩
  · exact Or.inl (Body.stop_of_build hbuild)
  · cases hrejected
    exact Or.inr ⟨(Body.outcome_of_build hbuild).left, rfl⟩
  · cases hmisused

/-- What is misused is the script, or a constant of it is of a type that has none. -/
theorem misuse_of_procedure {misuse : Misuse}
    (h : unit.procedure name sig body = .error (.misuse misuse)) :
    misuse.IsOfScript ∨ misuse = .constantType := by
  rcases procedure_eq_error h with hbuild | ⟨_, _, hrejected | hmisused⟩
  · exact Or.inl (Body.stop_of_build hbuild)
  · cases hrejected
  · cases hmisused
    exact Or.inr rfl

end CompilationUnit
end Provision
