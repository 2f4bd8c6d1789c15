import Provision.Proofs.Provider.Plan

/-!
# Acceptance of synthesized bodies

Every body that providers synthesize is accepted, in every unit in which the functions that it
calls are declared as planned.  What it is compiled to depends on their numbers only.
-/

namespace Provision

/-! ## Compiling ahead -/

namespace Outline

/-- The signature that a function without native integers has in every unit. -/
def signature (outline : Outline) : MachineSignature :=
  (Site.reference outline.sig none).signature

/-- The signature of the functions that a body calls. -/
def called (callees : List Outline) : Option MachineSignature :=
  callees.head?.map signature

/-- Functions that a body may call: they have one signature, without native integers. -/
def areCallable (callees : List Outline) : Bool :=
  callees.all fun outline =>
    decide (some outline.signature = called callees) &&
      decide (.native ∉ outline.sig.params ++ outline.sig.returns.toList)

theorem spec_of_callable {callees : List Outline} (h : areCallable callees = true)
    {outline : Outline} (houtline : outline ∈ callees) :
    called callees = some outline.signature ∧
      .native ∉ outline.sig.params ++ outline.sig.returns.toList := by
  have hboth := List.all_eq_true.mp h outline houtline
  simp only [Bool.and_eq_true, decide_eq_true_eq] at hboth
  exact ⟨hboth.left.symm, hboth.right⟩

/-- Functions that are declared with the signatures of the callees have the one signature that is
called. -/
theorem called_of_signatures {callees : List Outline} (hcallable : areCallable callees = true)
    {unit : CompilationUnit} {number : FuncId -> FuncId}
    (hsignatures : forall place outline, callees[place.index]? = some outline ->
      unit.module.signature? (number place) = some (unit.signature outline.sig))
    {place : FuncId} (hplace : place.index < callees.length) :
    unit.module.signature? (number place) = called callees := by
  have hget := List.getElem?_eq_getElem hplace
  rcases spec_of_callable hcallable (List.getElem_mem hplace) with ⟨hcalled, hportable⟩
  rw [hsignatures place _ hget, hcalled]
  exact congrArg some (unit.signature_of_reference none hportable)

end Outline

namespace Body

/-- Whether a body is accepted that calls functions by their places among the callees. -/
def accepts (body : Body) (sig : Signature) (callees : List Outline) : Bool :=
  match body.compiled? sig (Outline.called callees) with
  | none => false
  | some compiled =>
      StackSlot.fitFrame compiled.slots && Outline.areCallable callees &&
        (body.script.callees ++ compiled.code.callees ++ compiled.near).all fun place =>
          decide (place.index < callees.length)

theorem accepts_wrapper : forall function, function ∈ [FloatFunction.sqrt, .abs] ->
    forall type, type ∈ [DataType.float32, .float64] ->
      (Routine.wrapper function).accepts (ElementaryFunction.signature type) [] = true := by
  decide +kernel

theorem accepts_kernel : forall kernel, kernel ∈ [Kernel.gemv, .gemm] ->
    forall type, type ∈ [DataType.float32, .float64] ->
      (Routine.kernel kernel type).accepts (kernel.signature type) [] = true := by
  decide +kernel

theorem accepts_dot : forall element, element ∈ [DotElement.float, .int] ->
    (Routine.dot element.type).accepts element.signature [] = true := by
  decide +kernel

theorem accepts_counterClock : forall layout, layout ∈ [TimeLayout.fields32, .fields64] ->
    (Routine.counterClock { index := 0 } { index := 1 } layout).accepts
      (Routine.clockSignature layout)
      [Plan.queryCounter.toOutline, Plan.queryFrequency.toOutline] = true := by
  decide +kernel

theorem accepts_currentTime : forall origin, origin ∈ [ClockOrigin.posix, .performanceCounter] ->
    forall layout, layout ∈ [TimeLayout.fields32, .fields64] ->
      (Routine.currentTime { index := 0 } layout).accepts Routine.currentTimeSignature
        [(Plan.clock origin layout).toOutline] = true := by
  decide +kernel

end Body

/-! ## Plans that can be carried out -/

namespace Plan

/-- A function with a body that is accepted, or one without a body that is defined elsewhere. -/
def IsAccepted (plan : Plan) : Prop :=
  match plan.body with
  | none => plan.linkage = .imported
  | some body =>
      plan.linkage.isDefinable = true ∧ body.accepts plan.sig plan.callees = true

theorem isAccepted_query {origin : ClockOrigin} {plan : Plan} (h : plan ∈ queries origin) :
    plan.IsAccepted := by
  rcases mem_queries h with rfl | rfl
  · rfl
  · rfl

theorem isAccepted_of_primitive {origin : ClockOrigin} {layout : TimeLayout} {plan : Plan}
    {primitive : Primitive} (h : primitive.plan? origin layout = some plan) : plan.IsAccepted := by
  cases primitive with
  | elementary function type =>
      cases type
      case float32 =>
        cases function
        case sqrt => cases h; exact ⟨rfl, Body.accepts_wrapper _ (by simp) _ (by simp)⟩
        case abs => cases h; exact ⟨rfl, Body.accepts_wrapper _ (by simp) _ (by simp)⟩
        all_goals cases h; rfl
      case float64 =>
        cases function
        case sqrt => cases h; exact ⟨rfl, Body.accepts_wrapper _ (by simp) _ (by simp)⟩
        case abs => cases h; exact ⟨rfl, Body.accepts_wrapper _ (by simp) _ (by simp)⟩
        all_goals cases h; rfl
      all_goals cases h
  | kernel wanted element binding =>
      have hwanted : wanted ∈ [Kernel.gemv, .gemm] := by
        cases wanted <;> simp
      cases element
      case float32 =>
        cases binding
        case library => cases h; rfl
        case module => cases h; exact ⟨rfl, Body.accepts_kernel wanted hwanted _ (by simp)⟩
      case float64 =>
        cases binding
        case library => cases h; rfl
        case module => cases h; exact ⟨rfl, Body.accepts_kernel wanted hwanted _ (by simp)⟩
      all_goals cases h
  | getThreads => cases h; rfl
  | setThreads => cases h; rfl
  | dot element module =>
      cases h
      exact ⟨rfl, Body.accepts_dot element (by cases element <;> simp)⟩
  | clock =>
      cases h
      cases origin
      case posix => rfl
      case performanceCounter =>
        exact ⟨rfl, Body.accepts_counterClock layout (by cases layout <;> simp)⟩
  | currentTime module =>
      cases h
      exact ⟨rfl, Body.accepts_currentTime origin (by cases origin <;> simp) layout
        (by cases layout <;> simp)⟩

theorem Regular.isAccepted {origin : ClockOrigin} {layout : TimeLayout} {plan : Plan}
    (h : plan.Regular origin layout) : plan.IsAccepted := by
  rcases h with ⟨primitive, hmem⟩
  rcases Primitive.mem_plans hmem with hquery | ⟨owner, howner⟩
  · exact isAccepted_query hquery
  · exact isAccepted_of_primitive howner

/-! ## The procedure of a plan -/

/-- Whether the function at a place among the callees is near. -/
def isNear (plan : Plan) (place : FuncId) : Bool :=
  plan.callees[place.index]?.any fun outline => outline.linkage.isFinal

/-- The procedure, in which functions go by their places among the callees. -/
def procedure? (plan : Plan) : Option Procedure :=
  (plan.body.bind fun body => body.compiled? plan.sig (Outline.called plan.callees)).map
    fun compiled => { compiled with near := compiled.near.filter plan.isNear }

/-- The declaration in a unit in which the callees have the given numbers. -/
def declaration (plan : Plan) (unit : CompilationUnit) (number : FuncId -> FuncId) :
    Declaration where
  name := plan.symbol.name
  linkage := plan.linkage
  signature := unit.signature plan.sig
  code := plan.procedure?.map (Procedure.renumber number)

/-- The callees have numbers in a unit under which they are declared as outlined. -/
structure Finds (plan : Plan) (unit : CompilationUnit) (number : FuncId -> FuncId) : Prop where
  signature : forall place outline, plan.callees[place.index]? = some outline ->
    unit.module.signature? (number place) = some (unit.signature outline.sig)
  isFinal : forall place outline, plan.callees[place.index]? = some outline ->
    unit.module.isFinal (number place) = outline.linkage.isFinal

variable {plan : Plan} {body : Body}

theorem IsAccepted.spec (h : plan.IsAccepted) (hbody : plan.body = some body) :
    plan.linkage.isDefinable = true ∧
      exists compiled, body.compiled? plan.sig (Outline.called plan.callees) = some compiled ∧
        StackSlot.fitFrame compiled.slots = true ∧ Outline.areCallable plan.callees = true ∧
          forall place, place ∈ body.script.callees ++ compiled.code.callees ++ compiled.near ->
            place.index < plan.callees.length := by
  rw [IsAccepted, hbody] at h
  rcases h with ⟨hlinkage, haccepts⟩
  constructor
  · exact hlinkage
  · unfold Body.accepts at haccepts
    cases hcompiled : body.compiled? plan.sig (Outline.called plan.callees) with
    | none =>
        rw [hcompiled] at haccepts
        cases haccepts
    | some compiled =>
        rw [hcompiled] at haccepts
        simp only [Bool.and_eq_true, List.all_eq_true, decide_eq_true_eq] at haccepts
        exact ⟨compiled, rfl, haccepts.left.left, haccepts.left.right, haccepts.right⟩

theorem procedure_eq (h : plan.IsAccepted) (hbody : plan.body = some body) (unit : CompilationUnit)
    {number : FuncId -> FuncId} (hfinds : plan.Finds unit number) :
    exists procedure, plan.procedure? = some procedure ∧
      StackSlot.fitFrame procedure.slots = true ∧
        unit.procedure plan.symbol.name plan.sig (body.renumber number) =
          .ok (procedure.renumber number) := by
  rcases h.spec hbody with ⟨_, compiled, hcompiled, hfits, hcallable, hplaces⟩
  have hcalls : forall place, place ∈ body.script.callees ->
      unit.module.signature? (number place) = Outline.called plan.callees :=
    fun place hplace =>
      Outline.called_of_signatures hcallable hfinds.signature (hplaces place (by simp [hplace]))
  have hnear : forall place, place ∈ compiled.near ->
      unit.module.isFinal (number place) = plan.isNear place := by
    intro place hplace
    have hlt := hplaces place (by simp [hplace])
    have hget := List.getElem?_eq_getElem hlt
    rw [hfinds.isFinal place _ hget, isNear, hget]
    rfl
  refine ⟨{ compiled with near := compiled.near.filter plan.isNear }, ?_, hfits, ?_⟩
  · simp only [procedure?, hbody, Option.bind_some, hcompiled, Option.map_some]
  · rw [unit.procedure_of_compiled plan.symbol.name number hcompiled hcalls, List.filter_map]
    have hfilter : compiled.near.filter (unit.module.isFinal ∘ number) =
        compiled.near.filter plan.isNear := List.filter_congr hnear
    rw [hfilter]
    rfl

theorem isSome_procedure (h : plan.IsAccepted) : plan.procedure?.isSome = plan.body.isSome := by
  cases hbody : plan.body with
  | none => simp [procedure?, hbody]
  | some body =>
      rcases h.spec hbody with ⟨_, compiled, hcompiled, _⟩
      simp only [procedure?, hbody, Option.bind_some, hcompiled, Option.map_some,
        Option.isSome_some]

theorem declaration_congr (h : plan.IsAccepted) (unit : CompilationUnit)
    {number other : FuncId -> FuncId}
    (hsame : forall place, place.index < plan.callees.length -> number place = other place) :
    plan.declaration unit number = plan.declaration unit other := by
  cases hbody : plan.body with
  | none => simp [declaration, procedure?, hbody]
  | some body =>
      rcases h.spec hbody with ⟨_, compiled, hcompiled, _, _, hplaces⟩
      let procedure : Procedure := { compiled with near := compiled.near.filter plan.isNear }
      have hprocedure : plan.procedure? = some procedure := by
        simp only [procedure?, hbody, Option.bind_some, hcompiled, Option.map_some, procedure]
      have hcode : forall place, place ∈ compiled.code.callees -> number place = other place :=
        fun place hplace => hsame place (hplaces place (by simp [hplace]))
      have hnear : forall place, place ∈ procedure.near -> number place = other place :=
        fun place hplace => hsame place (hplaces place (by simp [List.mem_of_mem_filter hplace]))
      have hrenumber : procedure.renumber number = procedure.renumber other :=
        Procedure.renumber_congr hcode hnear
      simp only [declaration, hprocedure, Option.map_some, hrenumber]

end Plan
end Provision
