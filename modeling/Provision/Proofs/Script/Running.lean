import Provision.Proofs.Script.Rendering

/-!
# Bodies as they are written

The code of a function starts with the zeros that its locals have before they are made, as far as
these are wanted.  Where these have been set, the code stands beside the beginning of the script.
So a function that is built does what its body says.
-/

namespace Provision

/-! ## Zeros -/

namespace Operation

theorem resultType_zero (type : MachineType) (typeOf : ValueId -> MachineType) :
    (zero type).resultType typeOf = type := by
  cases type
  all_goals rfl

theorem eval_zero (type : MachineType) (value? : ValueId -> Option Scalar) :
    (zero type).eval value? = some (Scalar.zero type) := by
  cases type with
  | int width => simp [zero, eval, Scalar.zero, Scalar.ofNat]
  | float format => rfl

end Operation

namespace Instruction

/-- Sets a value to the zero of a type. -/
def clear (entry : MachineType × ValueId) : Instruction :=
  .compute entry.2 (Operation.zero entry.1)

theorem runAll_clear {σ : Type} (invoke : FuncId -> Behaviour σ)
    (entries : List (MachineType × ValueId)) (frame : Frame) (world : World σ) :
    runAll invoke (entries.map clear) (frame, world) =
      some ({ frame with
        values := (entries.map fun entry => (entry.2, Scalar.zero entry.1)).reverse ++
          frame.values }, world) := by
  induction entries generalizing frame with
  | nil => rfl
  | cons entry entries ih =>
      have hfirst : (clear entry).run invoke (frame, world) =
          some (frame.bind entry.2 (Scalar.zero entry.1), world) := by
        simp only [clear, run, Operation.eval_zero, Option.bind_eq_bind, Option.bind_some]
      rw [List.map_cons, runAll_cons, hfirst]
      simp only [ih, Frame.bind, List.map_cons, List.reverse_cons, List.append_assoc,
        List.singleton_append]

theorem values_checkAll_clear {env : Surroundings} {scope after : Scope}
    {entries : List (MachineType × ValueId)}
    (h : checkAll env scope (entries.map clear) = .ok after) :
    after.values = (entries.map fun entry => (entry.2, entry.1)).reverse ++ scope.values := by
  induction entries generalizing scope with
  | nil =>
      cases h
      rfl
  | cons entry entries ih =>
      rcases checkAll_cons_eq_ok h with ⟨middle, hfirst, hrest⟩
      have hvalues : middle.values = (entry.2, entry.1) :: scope.values := by
        rw [(check_eq_ok hfirst).right.right]
        simp only [clear, resultTypes, Operation.resultType_zero]
        rfl
      rw [ih hrest, hvalues, List.map_cons, List.reverse_cons, List.append_assoc,
        List.singleton_append]

end Instruction

namespace Body

/-- The locals of a body that are wanted before they are made, with their types. -/
def unmade (site : Site) (body : Body) (demand : Demand) : List (MachineType × ValueId) :=
  ((body.locals site).zipIdx site.signature.params.length).filter fun entry =>
    demand.wanted.contains entry.2

theorem zeros_eq (site : Site) (body : Body) (demand : Demand) :
    body.zeros site demand = (body.unmade site demand).map Instruction.clear := by
  unfold zeros unmade
  rw [← List.filterMap_eq_map, List.filterMap_filter]
  rfl

theorem mem_unmade {site : Site} {body : Body} {demand : Demand} {type : MachineType}
    {place : Nat} :
    (type, site.signature.params.length + place) ∈ body.unmade site demand ↔
      (body.locals site)[place]? = some type ∧
        demand.wanted.contains (site.signature.params.length + place) = true := by
  rw [unmade, List.mem_filter, List.mk_add_mem_zipIdx_iff_getElem?]

/-- Locals come after the parameters. -/
theorem le_of_mem_unmade {site : Site} {body : Body} {demand : Demand}
    {entry : MachineType × ValueId} (h : entry ∈ body.unmade site demand) :
    site.signature.params.length ≤ entry.2 :=
  (List.mem_zipIdx_iff_le_and_getElem?_sub.mp (List.mem_of_mem_filter h)).left

theorem nodup_unmade (site : Site) (body : Body) (demand : Demand) :
    ((body.unmade site demand).map Prod.snd).Nodup := by
  have hsublist : ((body.unmade site demand).map Prod.snd).Sublist
      (((body.locals site).zipIdx site.signature.params.length).map Prod.snd) :=
    List.filter_sublist.map Prod.snd
  rw [List.zipIdx_map_snd] at hsublist
  exact hsublist.nodup List.nodup_range'

/-- Under the locals that are wanted there is what has been put there for them. -/
theorem lookup_unmade {β : Type} {site : Site} {body : Body} {demand : Demand}
    (content : MachineType -> β) {entry : MachineType × ValueId}
    (h : entry ∈ body.unmade site demand) (more : List (ValueId × β)) :
    (((body.unmade site demand).map fun entry => (entry.2, content entry.1)).reverse ++
      more).lookup entry.2 = some (content entry.1) := by
  have hkeys : ((((body.unmade site demand).map fun entry =>
      (entry.2, content entry.1)).reverse).map Prod.fst).Nodup := by
    rw [List.map_reverse, List.nodup_reverse, List.map_map]
    exact nodup_unmade site body demand
  have hentry : (entry.2, content entry.1) ∈ ((body.unmade site demand).map fun entry =>
      (entry.2, content entry.1)).reverse :=
    List.mem_reverse.mpr (List.mem_map_of_mem (f := fun entry => (entry.2, content entry.1)) h)
  exact Association.lookup_of_mem hkeys hentry more

theorem lookup_of_not_mem_unmade {β : Type} {site : Site} {body : Body} {demand : Demand}
    (content : MachineType -> β) {value : ValueId}
    (h : forall entry, entry ∈ body.unmade site demand -> entry.2 ≠ value)
    (more : List (ValueId × β)) :
    (((body.unmade site demand).map fun entry => (entry.2, content entry.1)).reverse ++
      more).lookup value = more.lookup value := by
  apply Association.lookup_append_of_not_mem
  intro hmem
  rw [List.map_reverse, List.mem_reverse, List.map_map, List.mem_map] at hmem
  rcases hmem with ⟨entry, hentry, heq⟩
  exact h entry hentry heq

end Body

/-! ## The beginning of a script -/

theorem Association.lookup_range {β : Type} {values : List β} {count index : Nat}
    (hlength : values.length = count) (hindex : index < values.length) :
    ((List.range count).zip values).lookup index = some values[index] := by
  have hkey : index < (List.range count).length := by
    rw [List.length_range, ← hlength]
    exact hindex
  have hfound := lookup_zip_getElem List.nodup_range [] hkey hindex
  rw [List.append_nil, List.getElem_range] at hfound
  exact hfound

namespace Rendition

variable {σ : Type} (r : Rendition σ) (body : Body)

/-- The frame in which the zeros have been set. -/
def opening : Frame where
  values := ((body.unmade r.site r.demand).map fun entry =>
    (entry.2, Scalar.zero entry.1)).reverse ++ (Frame.start r.arguments r.addresses).values
  slots := r.addresses

theorem run_zeros (world : World σ) :
    Instruction.runAll r.invoke (body.zeros r.site r.demand)
      (Frame.start r.arguments r.addresses, world) = some (r.opening body, world) := by
  rw [Body.zeros_eq]
  exact Instruction.runAll_clear r.invoke _ _ world

/-- Where a script begins. -/
def outset (scope : Scope) : Point where
  builder := Builder.start r.site.signature.params (body.locals r.site)
  scope := scope
  frame := r.opening body

theorem length_outset (scope : Scope) : (r.outset body scope).builder.types.length =
    r.site.signature.params.length + (body.locals r.site).length := List.length_append

variable {r body}

section Outset

variable {scope : Scope} (harguments : r.arguments.map Scalar.type = r.site.signature.params)
  (hcheck : Instruction.checkAll r.env
    { values := (List.range r.site.signature.params.length).zip r.site.signature.params
      fits := true } (body.zeros r.site r.demand) = .ok scope)

include hcheck

theorem values_outset : scope.values =
    ((body.unmade r.site r.demand).map fun entry => (entry.2, entry.1)).reverse ++
      (List.range r.site.signature.params.length).zip r.site.signature.params := by
  rw [Body.zeros_eq] at hcheck
  exact Instruction.values_checkAll_clear hcheck

include harguments in
theorem sound_outset (hfits : scope.fits = true) (world : World σ) :
    r.Sound (r.outset body scope) where
  types := Instruction.types_runAll r.calls hcheck hfits
    (Procedure.types_start harguments r.addresses) (r.run_zeros body world)
  bounded := by
    intro value type hlookup
    have hvalues := values_outset hcheck
    simp only [outset, hvalues] at hlookup
    rcases List.lookup_eq_some_iff.mp hlookup with ⟨before, after, hall, _⟩
    have hmem : (value, type) ∈ before ++ (value, type) :: after :=
      List.mem_append_right before List.mem_cons_self
    rw [← hall, List.mem_append, List.mem_reverse, List.mem_map] at hmem
    rw [length_outset]
    rcases hmem with ⟨entry, hentry, heq⟩ | hparam
    · cases heq
      exact (List.mem_zipIdx (List.mem_of_mem_filter hentry)).right.left
    · exact Nat.lt_add_right _ (List.mem_range.mp (List.of_mem_zip hparam).left)
  slots := rfl

include harguments in
/-- A parameter stands for the argument in its place. -/
theorem stands_param (hsound : r.Sound (r.outset body scope)) {index : Nat}
    (hindex : index < r.arguments.length) (hself : r.demand.resolve index = index) :
    r.Stands (r.outset body scope) index r.arguments[index] := by
  have hcount : r.arguments.length = r.site.signature.params.length := by
    rw [← harguments, List.length_map]
  have hparam : index < r.site.signature.params.length := by
    rw [← hcount]
    exact hindex
  have hfree : forall entry, entry ∈ body.unmade r.site r.demand -> entry.2 ≠ index := by
    intro entry hentry
    exact Nat.ne_of_gt (Nat.lt_of_lt_of_le hparam (Body.le_of_mem_unmade hentry))
  have htype : (r.outset body scope).builder.typeOf index = r.site.signature.params[index] := by
    simp only [outset, Builder.typeOf, Builder.start]
    rw [List.getD_append _ _ _ _ hparam, List.getD_eq_getElem _ _ hparam]
  apply hsound.stands hself
  · rw [htype]
    simp only [outset, values_outset hcheck]
    rw [Body.lookup_of_not_mem_unmade (fun type => type) hfree]
    exact Association.lookup_range rfl hparam
  · exact (Body.lookup_of_not_mem_unmade Scalar.zero hfree _).trans
      (Association.lookup_range rfl hindex)

/-- A local stands for zero. -/
theorem stands_zero (hsound : r.Sound (r.outset body scope)) {place : Nat}
    (hplace : place < (body.locals r.site).length)
    (hself : r.demand.resolve (r.site.signature.params.length + place) =
      r.site.signature.params.length + place) :
    r.Stands (r.outset body scope) (r.site.signature.params.length + place)
      (Scalar.zero (body.locals r.site)[place]) := by
  have hbound : r.site.signature.params.length + place <
      (r.outset body scope).builder.types.length := by
    rw [length_outset]
    exact Nat.add_lt_add_left hplace _
  have htype : (r.outset body scope).builder.typeOf (r.site.signature.params.length + place) =
      (body.locals r.site)[place] := by
    simp only [outset, Builder.typeOf, Builder.start]
    rw [List.getD_append_right _ _ _ _ (Nat.le_add_right _ _), Nat.add_sub_cancel_left,
      List.getD_eq_getElem _ _ hplace]
  cases hwanted : r.demand.wanted.contains (r.site.signature.params.length + place) with
  | true =>
      have hmem : ((body.locals r.site)[place], r.site.signature.params.length + place) ∈
          body.unmade r.site r.demand :=
        Body.mem_unmade.mpr ⟨List.getElem?_eq_getElem hplace, hwanted⟩
      apply hsound.stands hself
      · rw [htype]
        simp only [outset, values_outset hcheck]
        exact Body.lookup_unmade (fun type => type) hmem _
      · exact Body.lookup_unmade Scalar.zero hmem _
  | false =>
      constructor
      · exact hbound
      · rw [hself]
        exact hbound
      · rw [htype]
        exact Scalar.type_zero _
      · have hnone : scope.values.lookup (r.site.signature.params.length + place) = none := by
          have hfree : forall entry, entry ∈ body.unmade r.site r.demand ->
              entry.2 ≠ r.site.signature.params.length + place := by
            intro entry hentry heq
            have hkept := (List.mem_filter.mp hentry).right
            rw [heq, hwanted] at hkept
            cases hkept
          rw [values_outset hcheck, Body.lookup_of_not_mem_unmade (fun type => type) hfree,
            List.lookup_eq_none_iff]
          intro param hparam
          have hlt := List.mem_range.mp (List.of_mem_zip hparam).left
          exact bne_iff_ne.mpr (Nat.ne_of_gt (Nat.lt_add_right place hlt))
        intro type hlookup
        rw [hself] at hlookup
        cases hnone.symm.trans hlookup

include harguments in
/-- Where the zeros have been set, the arguments of the call and the zeros stand beside the
beginning of the script. -/
theorem matches_outset (hfits : scope.fits = true) (htypes : r.types = body.locals r.site)
    (hself : forall value, value < r.site.signature.params.length + (body.locals r.site).length ->
      r.demand.resolve value = value) (world : World σ) :
    r.Matches [] (r.outset body scope)
      { names := []
        locals := (body.locals r.site).map Scalar.zero
        world := world } := by
  have hsound := sound_outset harguments hcheck hfits world
  constructor
  · exact hsound
  · intro index hindex
    have hcount : index < r.arguments.length := by
      rw [← List.length_map Scalar.type, harguments]
      exact hindex
    exact ⟨_, List.getElem?_eq_getElem hcount, stands_param harguments hcheck hsound hcount
      (hself index (Nat.lt_add_right _ hindex))⟩
  · intro name value _ hlookup
    cases hlookup
  · rw [List.forall₂_map_right_iff, List.forall₂_iff_get]
    constructor
    · exact List.length_range'
    · intro place hlocal hplace
      have hvalue : (r.outset body scope).builder.locals.get ⟨place, hlocal⟩ =
          r.site.signature.params.length + place := by
        simp only [outset, Builder.start, List.get_eq_getElem, List.getElem_range', Nat.one_mul]
      rw [hvalue]
      exact stands_zero hcheck hsound hplace (hself _ (Nat.add_lt_add_left hplace _))
  · rw [htypes, List.map_map]
    exact (List.map_congr_left fun type _ => Scalar.type_zero type).trans (List.map_id _)
  · intro name id hlookup
    cases hlookup

end Outset

end Rendition

/-! ## Bodies -/

theorem Script.length_localNames_progress (script : Script) (progress : Progress) :
    (Script.progress progress script).localNames.length =
      progress.localNames.length + script.locals.length := by
  induction script generalizing progress with
  | done => rfl
  | step first rest ih =>
      cases first
      case newLocal name type init =>
          simp only [Script.progress, ih, Step.progress, Script.locals, List.length_cons]
          omega
      all_goals exact ih _
  | loop head body rest ihBody ihRest =>
      simp only [Script.progress, ihBody, ihRest, Script.locals, List.length_append, Nat.add_assoc]

namespace Body

variable {site : Site} {body : Body} {procedure : Procedure}

theorem code_of_build (h : (body.build site).1 = .ok procedure) :
    exists code values builder,
      Region.emit site body.script (Builder.start site.signature.params (body.locals site)) =
          .ok code builder ∧
        List.Forall₂ (fun name value => builder.names.lookup name = some value) body.returns
          values ∧
        procedure = body.procedure site code values builder := by
  rcases build_eq_ok h with ⟨code, values, builder, hrun, rfl⟩
  rcases Emit.exists_of_bind_eq_ok hrun with ⟨_, middle, hemit, hreturns⟩
  rcases Emit.exists_of_bind_eq_ok hreturns with ⟨_, last, hvalues, hpure⟩
  rcases Emit.valuesOf_eq_ok hvalues with ⟨hlookup, rfl⟩
  cases hpure
  exact ⟨code, values, builder, hemit, hlookup, rfl⟩

/-- The scene in which a body starts: its locals are zero, and its stack slots are reserved. -/
def scene {σ : Type} (site : Site) (body : Body) (world : World σ) : Scene σ where
  names := []
  locals := (body.locals site).map Scalar.zero
  world := { world with stack := StackSlot.bottom body.script.slots world.stack }

end Body

namespace Rendition

variable {σ : Type} {r : Rendition σ} {body : Body} {code : Code} {builder : Builder}
  {world : World σ} {values : List ValueId}

/-- A call of the procedure that a body is emitted to, beside what the body says. -/
structure Stages (r : Rendition σ) (body : Body) (code : Code) (builder : Builder)
    (world : World σ) : Prop where
  emit : Region.emit r.site body.script
    (Builder.start r.site.signature.params (body.locals r.site)) = .ok code builder
  slots : builder.slots = body.script.slots
  addresses : r.addresses = StackSlot.addresses body.script.slots
    (StackSlot.bottom body.script.slots world.stack)
  demand : r.demand = .ofUses code.carried builder.uses
  types : r.types = body.locals r.site
  arguments : r.arguments.map Scalar.type = r.site.signature.params

theorem Stages.run_body (h : r.Stages body code builder world) :
    body.run r.site.lowering r.invoke r.arguments world =
      (body.script.run r.setting .empty (body.scene r.site world)).bind fun final =>
        (body.returns.mapM final.value?).bind fun results =>
          some (results, { final.world with stack := world.stack }) := by
  have hlocals : body.script.locals.map (fun type => Scalar.zero (r.site.lowering.lower type)) =
      (body.locals r.site).map Scalar.zero := by
    rw [Body.locals, List.map_map]
    rfl
  rw [Body.run, hlocals, setting, h.addresses]
  rfl

theorem Stages.run_procedure (h : r.Stages body code builder world) (values : List ValueId) :
    (body.procedure r.site code values builder).run r.invoke r.arguments world =
      ((code.prune r.demand).run r.invoke (r.opening body, (body.scene r.site world).world)).bind
        fun state => ((values.map r.demand.resolve).mapM state.1.value?).bind fun results =>
          some (results, { state.2 with stack := world.stack }) := by
  have hcode : (body.procedure r.site code values builder).code.run r.invoke
      (Frame.start r.arguments r.addresses, (body.scene r.site world).world) =
        (code.prune r.demand).run r.invoke (r.opening body, (body.scene r.site world).world) := by
    rw [Body.procedure, ← h.demand, Region.run_prepend, run_zeros]
  rw [Procedure.run, ← hcode, h.demand, h.addresses, Body.scene, ← h.slots]
  rfl

/-- The parameters and the zeros of the locals are no aliases. -/
theorem Stages.resolve_eq (h : r.Stages body code builder world) {value : ValueId}
    (hvalue : value < r.site.signature.params.length + (body.locals r.site).length) :
    r.demand.resolve value = value := by
  rcases Region.grows_emit r.site body.script h.emit rfl with ⟨_, hextends, _⟩
  rcases hextends.types with ⟨more, _, hnumbers⟩
  rw [h.demand]
  apply Demand.resolve_ofUses_of_not_mem
  rw [hnumbers, List.mem_range'_1]
  intro hmem
  have hstart : (Builder.start r.site.signature.params (body.locals r.site)).types.length =
      r.site.signature.params.length + (body.locals r.site).length := List.length_append
  rw [hstart] at hmem
  exact Nat.not_le_of_lt hvalue hmem.left

theorem Stages.places (h : r.Stages body code builder world) {scope last : Scope}
    (hcheck : (code.prune r.demand).check r.env scope = .ok last) (hfits : last.fits = true)
    (hscoped : body.script.isScoped r.site.signatureOf? [] = true) :
    r.Places [] body.script (r.outset body scope).builder scope code builder last := by
  rcases Region.grows_emit r.site body.script h.emit rfl with ⟨_, hextends, _⟩
  rcases hextends.types with ⟨more, _, hnumbers⟩
  constructor
  · exact h.emit
  · rfl
  · rw [Script.length_localNames_progress]
    have hroom : (r.outset body scope).builder.locals.length = body.script.locals.length :=
      List.length_range'.trans (List.length_map _)
    rw [hroom]
    exact Nat.le_of_eq (Nat.zero_add _)
  · rw [h.demand]
    apply Demand.suits_ofUses
    rw [hnumbers]
    exact List.nodup_range'
  · exact hcheck
  · exact hfits
  · exact hscoped

/-- Names and what their values resolve to have the same in the end, as far as both are in scope. -/
theorem Matches.exists_results {hidden : List String} {p : Point} {final : Scene σ}
    (h : r.Matches hidden p final) {names : List String}
    (hnames : forall name, name ∈ names -> name ∉ hidden)
    (hlookup : List.Forall₂ (fun name value => p.builder.names.lookup name = some value) names
      values)
    (hmissing : p.scope.missing? (values.map r.demand.resolve) = none) :
    exists xs, names.mapM final.value? = some xs ∧
      (values.map r.demand.resolve).mapM p.frame.value? = some xs := by
  rcases h.exists_values hnames hlookup with ⟨xs, hxs, hstands⟩
  have hboth := (List.forall₂_and_left _ _).mpr ⟨fun value hvalue => hvalue, hstands⟩
  refine ⟨xs, hxs, ?_⟩
  rw [mapM_eq_some_iff, List.forall₂_map_left_iff]
  apply hboth.imp
  rintro value x ⟨hvalue, hheld⟩
  rcases Scope.exists_of_missing? hmissing (List.mem_map_of_mem hvalue) with ⟨type, htype⟩
  exact (hheld.holds type htype).right

end Rendition

/-- A function that is built and accepted does what its body says. -/
theorem Body.run_build {site : Site} {body : Body} {procedure : Procedure} {σ : Type}
    {invoke : FuncId -> Behaviour σ}
    (hbuild : (body.build site).1 = .ok procedure)
    (hcheck : procedure.check site.signatureOf? = .ok true)
    (hpointer : site.lowering.pointer = .i64)
    (hscoped : body.isScoped site.signatureOf? = true) (hcalls : CallsFit site.signatureOf? invoke)
    {arguments : List Scalar} (harguments : arguments.map Scalar.type = site.signature.params)
    (world : World σ) :
    procedure.run invoke arguments world = body.run site.lowering invoke arguments world := by
  have hslots := (outcome_of_build hbuild).right
  rcases code_of_build hbuild with ⟨code, values, builder, hemit, hreturns, rfl⟩
  rcases Procedure.of_check hcheck with ⟨last, hcode, hmissing, hfits, _⟩
  let r : Rendition σ :=
    { site := site
      slots := builder.slots
      addresses := StackSlot.addresses body.script.slots
        (StackSlot.bottom body.script.slots world.stack)
      demand := .ofUses code.carried builder.uses
      types := body.locals site
      arguments := arguments
      invoke := invoke
      pointer := hpointer
      calls := hcalls }
  have hstages : r.Stages body code builder world := ⟨hemit, hslots, rfl, rfl, rfl, harguments⟩
  rcases Region.check_prepend_eq_ok hcode with ⟨scope, hzeros, hlast⟩
  rw [isScoped, Bool.and_eq_true] at hscoped
  have hplaces : r.Places [] body.script (r.outset body scope).builder scope code builder last :=
    hstages.places hlast hfits hscoped.left
  have hbegins := Rendition.matches_outset (r := r) harguments hzeros
    (Region.fits_of_check hlast hfits) rfl (fun value => hstages.resolve_eq)
    (body.scene site world).world
  have hshows : Follows (body.script.run r.setting .empty (body.scene site world)) _
      ((code.prune r.demand).run invoke (r.opening body, (body.scene site world).world)) :=
    hplaces.shows hbegins
  have hbody := hstages.run_body
  have hprocedure := hstages.run_procedure values
  rw [hprocedure, hbody]
  cases hfinal : body.script.run r.setting .empty (body.scene site world) with
  | none =>
      rw [hfinal] at hshows
      rw [hshows]
      rfl
  | some final =>
      rw [hfinal] at hshows
      rcases hshows with ⟨⟨frame, _⟩, hcoded, rfl, _, hends⟩
      have hnames : forall name, name ∈ body.returns ->
          name ∉ body.script.hides site.signatureOf? [] := by
        intro name hname
        have hout := List.all_eq_true.mp hscoped.right name hname
        simpa using hout
      rcases hends.exists_results hnames hreturns hmissing with ⟨xs, hxs, hresults⟩
      rw [hcoded]
      simp only [Option.bind_some, hresults, hxs]

end Provision
