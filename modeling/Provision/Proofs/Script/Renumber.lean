import Provision.Proofs.Action
import Provision.Proofs.Code.Renumber
import Provision.Proofs.Script.Composing
import Provision.Proofs.Script.Portable

/-!
# Emission and renumbering

A script may call functions by other numbers.  It is then emitted to the same code, which calls
them by these numbers, as long as they have the same signatures.
-/

namespace Provision

/-! ## Scripts that call by other numbers -/

/-- The step with the functions under other numbers. -/
def Step.renumber (number : FuncId -> FuncId) : Step -> Step
  | call results callee arguments => call results (number callee) arguments
  | callFirst result callee arguments => callFirst result (number callee) arguments
  | other => other

def Script.renumber (number : FuncId -> FuncId) : Script -> Script
  | .done => .done
  | .step first rest => .step (first.renumber number) (renumber number rest)
  | .loop head body rest => .loop head (renumber number body) (renumber number rest)

def Body.renumber (number : FuncId -> FuncId) (body : Body) : Body :=
  { body with script := body.script.renumber number }

section Laws

variable (number : FuncId -> FuncId)

theorem Step.types_renumber (step : Step) : (step.renumber number).types = step.types := by
  cases step
  all_goals rfl

theorem Step.callees_renumber (step : Step) :
    (step.renumber number).callees = step.callees.map number := by
  cases step
  all_goals rfl

theorem Script.types_renumber (script : Script) :
    (script.renumber number).types = script.types := by
  induction script with
  | done => rfl
  | step first rest ih => simp only [renumber, types, Step.types_renumber, ih]
  | loop head body rest ihBody ihRest => simp only [renumber, types, ihBody, ihRest]

theorem Script.callees_renumber (script : Script) :
    (script.renumber number).callees = script.callees.map number := by
  induction script with
  | done => rfl
  | step first rest ih =>
      simp only [renumber, callees, Step.callees_renumber, ih, List.map_append]
  | loop head body rest ihBody ihRest =>
      simp only [renumber, callees, ihBody, ihRest, List.map_append]

theorem Script.renumber_id (script : Script) : script.renumber id = script := by
  induction script with
  | done => rfl
  | step first rest ih =>
      cases first
      all_goals
        simp only [renumber, ih]
        rfl
  | loop head body rest ihBody ihRest => simp only [renumber, ihBody, ihRest]

theorem Body.renumber_id (body : Body) : body.renumber id = body := by
  rw [renumber, Script.renumber_id]

theorem Script.locals_renumber (script : Script) :
    (script.renumber number).locals = script.locals := by
  induction script with
  | done => rfl
  | step first rest ih =>
      cases first
      case newLocal name type init => simp only [renumber, Step.renumber, locals, ih]
      all_goals exact ih
  | loop head body rest ihBody ihRest => simp only [renumber, locals, ihBody, ihRest]

end Laws

/-! ## Builders -/

namespace Builder

def renumber (number : FuncId -> FuncId) (builder : Builder) : Builder :=
  { builder with pending := builder.pending.map (Instruction.renumber number) }

/-- The second of two builders is the first one with the functions under other numbers. -/
def Renumbered (number : FuncId -> FuncId) (builder other : Builder) : Prop :=
  other = builder.renumber number

end Builder

namespace Emit

/-- An action that does not depend on the numbers of the functions that have been called. -/
abbrev Steady {α : Type} (number : FuncId -> FuncId) (action : Emit α) : Prop :=
  Action.Respects (Builder.Renumbered number) action action

variable {α : Type} {number : FuncId -> FuncId}

theorem steady_fault (fault : Fault) : Steady number (Action.fault fault : Emit α) :=
  Action.respects_fault fault

/-- An action may go on with all that a builder holds but the instructions. -/
theorem steady_get_bind {next : Builder -> Emit α}
    (h : forall builder, Steady number (next builder))
    (hnext : forall builder : Builder, next (builder.renumber number) = next builder) :
    Steady number (get >>= next) := by
  rintro builder _ rfl
  rw [Action.answer_get_bind, Action.answer_get_bind, Action.leaves_get_bind,
    Action.leaves_get_bind, hnext]
  exact h builder builder _ rfl

theorem steady_modify {change : Builder -> Builder}
    (h : forall builder : Builder,
      change (builder.renumber number) = (change builder).renumber number) :
    Steady number (modify change : Emit Unit) := by
  rintro builder _ rfl
  exact ⟨rfl, h builder⟩

theorem steady_append {instruction : Instruction}
    (h : forall results callee arguments, instruction ≠ .call results callee arguments) :
    Steady number (append instruction) := by
  have hsame : instruction.renumber number = instruction := by
    cases instruction with
    | call results callee arguments => exact absurd rfl (h results callee arguments)
    | _ => rfl
  apply steady_modify
  intro builder
  simp only [Builder.renumber, List.map_append, List.map_cons, List.map_nil, hsame]

/-- What is added to a builder does not depend on the numbers, unless it is a call. -/
theorem building_steady (number : FuncId -> FuncId) : Building (Steady number) where
  pure := Action.respects_pure
  misuse := fun _ _ _ h => ⟨rfl, h⟩
  bind := fun h hnext => h.bind hnext
  look := fun h hnext => steady_get_bind h fun builder => hnext builder _
  fresh := by
    rintro type builder _ rfl
    exact ⟨rfl, rfl⟩
  append := steady_append
  modify := by
    intro change h
    apply steady_modify
    intro builder
    rw [Builder.renumber, h.pending, Builder.renumber, h.pending_change]

theorem steady_reserve (site : Site) (size alignShift : Nat) :
    Steady number (reserve site size alignShift) := by
  rintro builder _ rfl
  let reserved : Builder :=
    { builder with slots := builder.slots ++ [{ size := size, alignShift := alignShift }] }
  have hreserved : Steady number (do
      let result ← fresh site.lowering.pointer
      append (.slotAddress result builder.slots.length)
      pure result) := by
    have hbuilding := building_steady number
    apply hbuilding.bind (hbuilding.fresh _)
    intro result
    exact hbuilding.bind (hbuilding.append nofun) fun _ => hbuilding.pure result
  exact hreserved reserved _ rfl

/-! ## Calls -/

/-- An action goes together with another one, whose answer is related. -/
abbrev Renumbers {α β : Type} (number : FuncId -> FuncId) (Q : α -> β -> Prop) (first : Emit α)
    (second : Emit β) : Prop :=
  Action.Follows (Builder.Renumbered number) Q first second

theorem renumbers_append (instruction : Instruction) :
    Renumbers number Eq (append instruction) (append (instruction.renumber number)) := by
  rintro builder _ rfl result after hrun
  cases hrun
  refine ⟨_, _, rfl, rfl, ?_⟩
  simp only [Builder.Renumbered, Builder.renumber, List.map_append, List.map_cons, List.map_nil]

theorem renumbers_drain :
    Renumbers number (fun xs ys => ys = xs.map (Instruction.renumber number)) drain drain := by
  rintro builder _ rfl instructions after hrun
  cases hrun
  exact ⟨_, _, rfl, rfl, rfl⟩

variable {site : Site} {callee : FuncId}

theorem renumbers_call (h : site.signatureOf? (number callee) = site.signatureOf? callee)
    (arguments : List ValueId) :
    Renumbers number Eq (call site callee arguments) (call site (number callee) arguments) := by
  unfold call
  rw [h]
  cases site.signatureOf? callee with
  | none =>
      intro _ _ _ _ _ hrun
      cases hrun
  | some signature =>
      refine ((building_steady number).freshAll signature.returns).follows_bind fun results => ?_
      apply (renumbers_append (.call results callee arguments)).bind
      intro _ _ _
      exact Action.follows_pure rfl

theorem renumbers_callFirst (h : site.signatureOf? (number callee) = site.signatureOf? callee)
    (arguments : List ValueId) :
    Renumbers number Eq (callFirst site callee arguments)
      (callFirst site (number callee) arguments) := by
  apply (renumbers_call h arguments).bind
  rintro results _ rfl
  cases results with
  | nil =>
      intro _ _ _ _ _ hrun
      cases hrun
  | cons result rest => exact Action.follows_pure rfl

end Emit

/-! ## Steps -/

open Emit in
/-- A step that calls nothing is emitted alike whatever has been called before. -/
theorem Step.steady_emit (number : FuncId -> FuncId) (site : Site) {step : Step}
    (h : step.callees = []) : Steady number (step.emit site) := by
  have hbuilding := building_steady number
  cases step
  case reserve result size alignShift =>
      exact hbuilding.named result (steady_reserve site size alignShift)
  case call => cases h
  case callFirst => cases h
  case fail => exact steady_fault _
  all_goals exact hbuilding.step site rfl

open Emit in
theorem Step.renumbers_emit {number : FuncId -> FuncId} {site : Site} (step : Step)
    (h : forall callee, callee ∈ step.callees ->
      site.signatureOf? (number callee) = site.signatureOf? callee) :
    Renumbers number Eq (step.emit site) ((step.renumber number).emit site) := by
  have hbuilding := building_steady number
  cases step
  case call results callee arguments =>
      have hcallee := h callee (List.mem_singleton_self callee)
      apply (hbuilding.valuesOf arguments).follows_bind
      intro arguments
      apply (renumbers_call hcallee arguments).bind
      rintro returned _ rfl
      exact ((hbuilding.note _).bind fun _ => hbuilding.bindAll results returned).follows
  case callFirst result callee arguments =>
      have hcallee := h callee (List.mem_singleton_self callee)
      apply (hbuilding.valuesOf arguments).follows_bind
      intro arguments
      apply (renumbers_callFirst hcallee arguments).bind
      rintro returned _ rfl
      exact (hbuilding.bindName result returned).follows
  all_goals exact (Step.steady_emit number site rfl).follows

/-! ## Scripts -/

open Emit in
theorem Region.renumbers_emit {number : FuncId -> FuncId} {site : Site} (script : Script)
    (h : forall callee, callee ∈ script.callees ->
      site.signatureOf? (number callee) = site.signatureOf? callee) :
    Renumbers number (fun code other => other = code.renumber number) (Region.emit site script)
      (Region.emit site (script.renumber number)) := by
  have hbuilding := building_steady number
  induction script with
  | done => exact Action.follows_pure rfl
  | step first rest ih =>
      have hfirst := Step.renumbers_emit first fun callee hmem =>
        h callee (List.mem_append_left _ hmem)
      have hrest := ih fun callee hmem => h callee (List.mem_append_right _ hmem)
      apply hfirst.bind
      intro _ _ _
      apply renumbers_drain.bind
      rintro instructions _ rfl
      apply hrest.bind
      rintro code _ rfl
      exact Action.follows_pure (renumber_prepend number instructions code).symm
  | loop head body rest ihBody ihRest =>
      have hbody := ihBody fun callee hmem => h callee (List.mem_append_left _ hmem)
      have hrest := ihRest fun callee hmem => h callee (List.mem_append_right _ hmem)
      apply (hbuilding.computing.start head).follows_bind
      rintro ⟨bound, origin⟩
      apply renumbers_drain.bind
      rintro before _ rfl
      apply hbuilding.locals.follows_bind
      intro outer
      apply (hbuilding.openLoop origin outer).follows_bind
      rintro ⟨index, inner⟩
      apply (hbuilding.header head index bound).follows_bind
      intro test
      apply renumbers_drain.bind
      rintro instructions _ rfl
      apply hbody.bind
      rintro pass _ rfl
      apply (hbuilding.compute _).follows_bind
      intro next
      apply renumbers_drain.bind
      rintro last _ rfl
      apply hbuilding.locals.follows_bind
      intro after
      apply (hbuilding.carried _ _ _).follows_bind
      intro carried
      apply (hbuilding.closeLoop index inner).follows_bind
      intro _
      apply hrest.bind
      rintro code _ rfl
      apply Action.follows_pure
      simp only [renumber_prepend, renumber, renumber_append, ofSteps]
      rfl

/-! ## Bodies -/

namespace Body

open Emit in
theorem renumbers_emit {number : FuncId -> FuncId} {site : Site} (body : Body)
    (h : forall callee, callee ∈ body.script.callees ->
      site.signatureOf? (number callee) = site.signatureOf? callee) :
    Renumbers number (fun result other => other = (result.1.renumber number, result.2))
      (body.emit site) ((body.renumber number).emit site) := by
  apply (Region.renumbers_emit body.script h).bind
  rintro code _ rfl
  apply ((building_steady number).valuesOf body.returns).follows_bind
  intro results
  exact Action.follows_pure rfl

theorem locals_renumber (number : FuncId -> FuncId) (site : Site) (body : Body) :
    (body.renumber number).locals site = body.locals site := by
  simp only [locals, renumber, Script.locals_renumber]

theorem procedure_renumber {number : FuncId -> FuncId} {site : Site} (body : Body) (code : Code)
    (results : List ValueId) (builder : Builder)
    (hfinal : forall callee, site.isFinal (number callee) = site.isFinal callee) :
    (body.renumber number).procedure site (code.renumber number) results
        (builder.renumber number) =
      (body.procedure site code results builder).renumber number := by
  have hzeros : forall demand,
      (body.renumber number).zeros site demand = body.zeros site demand := by
    intro demand
    simp only [zeros, locals_renumber]
  have hfixed : forall demand, (body.zeros site demand).map (Instruction.renumber number) =
      body.zeros site demand := by
    intro demand
    refine (List.map_congr_left fun instruction hmem => ?_).trans (List.map_id _)
    rcases List.mem_filterMap.mp hmem with ⟨⟨type, value⟩, _, hsome⟩
    simp only [Option.ite_none_right_eq_some, Option.some.injEq] at hsome
    rw [← hsome.right]
    rfl
  have hnear : (code.callees.map number).filter site.isFinal =
      (code.callees.filter site.isFinal).map number := by
    rw [List.filter_map]
    congr 1
    apply List.filter_congr
    intro callee _
    exact hfinal callee
  simp only [procedure, Procedure.renumber, Builder.renumber, Region.carried_renumber, hzeros,
    Region.renumber_prepend, hfixed, Region.prune_renumber, Region.callees_renumber, hnear]

/-- Building a body goes together with renumbering the functions that it calls. -/
theorem build_renumber (number : FuncId -> FuncId) {site : Site} {body : Body}
    {procedure : Procedure}
    (hsame : forall callee, callee ∈ body.script.callees ->
      site.signatureOf? (number callee) = site.signatureOf? callee)
    (hfinal : forall callee, site.isFinal (number callee) = site.isFinal callee)
    (hbuild : (body.build site).1 = .ok procedure) :
    ((body.renumber number).build site).1 = .ok (procedure.renumber number) := by
  unfold build at hbuild ⊢
  rw [locals_renumber]
  have hstart := renumbers_emit body hsame
    (Builder.start site.signature.params (body.locals site)) _ rfl
  cases hrun : body.emit site (Builder.start site.signature.params (body.locals site)) with
  | error stop builder =>
      rw [hrun] at hbuild
      cases hbuild
  | ok result builder =>
      rcases result with ⟨code, results⟩
      rcases hstart _ _ hrun with ⟨_, _, hother, rfl, rfl⟩
      -- A builder has no instructions at the start, so there is nothing to renumber.
      have hsameStart : (Builder.start site.signature.params (body.locals site)).renumber number =
          Builder.start site.signature.params (body.locals site) := rfl
      rw [hsameStart] at hother
      rw [hrun] at hbuild
      cases hbuild
      simp only [hother, procedure_renumber body code results builder hfinal]

end Body
end Provision
