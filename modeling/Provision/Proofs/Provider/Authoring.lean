import Provision.Proofs.Provider.Preserving

/-!
# Functions made by plan

A module that providers have filled for several units holds functions that were made by plans of
those units.  Plans of one symbol agree in their signatures, whichever clock and layout they regard,
so that what calls a function may have been made for another unit than the function.
-/

namespace Provision

/-! ## Signatures of primitives -/

namespace Primitive

/-- Whether the signature has native integers. -/
def isNative : Primitive -> Bool
  | getThreads => true
  | setThreads => true
  | _ => false

theorem native_not_mem_sig {primitive : Primitive} (layout : TimeLayout)
    (hfault : primitive.fault? = none) (hnative : primitive.isNative = false) :
    .native ∉ (primitive.sig layout).params ++ (primitive.sig layout).returns.toList := by
  cases primitive
  case elementary function type =>
      cases type
      case float32 => simp only [sig]; decide
      case float64 => simp only [sig]; decide
      all_goals cases hfault
  case kernel wanted element binding =>
      cases element
      case float32 => cases wanted <;> simp only [sig] <;> decide
      case float64 => cases wanted <;> simp only [sig] <;> decide
      all_goals cases hfault
  case getThreads => cases hnative
  case setThreads => cases hnative
  case dot element module => cases element <;> simp only [sig] <;> decide
  case clock => cases layout <;> decide
  case currentTime module => simp only [sig]; decide

/-- Pointers are lowered alike, whatever they point to. -/
theorem signature_sig_layout (primitive : Primitive) (unit : CompilationUnit)
    (layout other : TimeLayout) :
    unit.signature (primitive.sig layout) = unit.signature (primitive.sig other) := by
  cases primitive
  case clock =>
      cases layout
      all_goals
        cases other
        all_goals rfl
  all_goals rfl

/-- Units agree on the signature of a primitive, if it has no native integers or they lower these
alike. -/
theorem signature_sig {primitive : Primitive} (hfault : primitive.fault? = none)
    {u v : CompilationUnit} (h : primitive.isNative = false ∨ u.lowering = v.lowering)
    (layout other : TimeLayout) :
    u.signature (primitive.sig layout) = v.signature (primitive.sig other) := by
  rw [primitive.signature_sig_layout u layout other]
  rcases h with hnative | hlowering
  · have hportable := native_not_mem_sig other hfault hnative
    rw [u.signature_of_reference none hportable, v.signature_of_reference none hportable]
  · rw [CompilationUnit.signature, CompilationUnit.signature, hlowering]

end Primitive

/-! ## Plans of different units -/

namespace Plan

variable {plan other : Plan} {origin origin' : ClockOrigin} {layout layout' : TimeLayout}

/-- The plan of a symbol of a primitive is that of the primitive. -/
theorem Regular.plan_of_symbol (h : plan.Regular origin layout) {primitive : Primitive}
    (hsymbol : primitive.symbol = .ok plan.symbol) :
    primitive.plan? origin layout = some plan := by
  rcases h with ⟨taker, hmem⟩
  rcases Primitive.mem_plans hmem with hquery | ⟨owner, howner⟩
  · exact absurd hsymbol (query_ne_primitive hquery primitive)
  · rw [Primitive.symbol_injective hsymbol (Primitive.symbol_of_plan howner)]
    exact howner

/-- Plans of one symbol have signatures that a unit lowers alike. -/
theorem Regular.signature_eq (h : plan.Regular origin layout)
    (hother : other.Regular origin' layout') (hsymbol : plan.symbol = other.symbol)
    (unit : CompilationUnit) : unit.signature plan.sig = unit.signature other.sig := by
  rcases h with ⟨taker, hmem⟩
  rcases Primitive.mem_plans hmem with hquery | ⟨owner, howner⟩
  · have hsame : other = plan := by
      rcases hother with ⟨second, hmemOther⟩
      rcases Primitive.mem_plans hmemOther with hqueryOther | ⟨ownerOther, hownerOther⟩
      · have hregular : plan.Regular .performanceCounter layout := by
          rcases mem_queries hquery with rfl | rfl
          · exact ⟨.clock, by simp [Primitive.plans, queries]⟩
          · exact ⟨.clock, by simp [Primitive.plans, queries]⟩
        have hregularOther : other.Regular .performanceCounter layout := by
          rcases mem_queries hqueryOther with rfl | rfl
          · exact ⟨.clock, by simp [Primitive.plans, queries]⟩
          · exact ⟨.clock, by simp [Primitive.plans, queries]⟩
        exact hregularOther.eq_of_symbol hregular hsymbol.symm
      · have howns := Primitive.symbol_of_plan hownerOther
        rw [← hsymbol] at howns
        exact absurd howns (query_ne_primitive hquery ownerOther)
    rw [hsame]
  · have howns := Primitive.symbol_of_plan howner
    rw [hsymbol] at howns
    rw [(Primitive.of_plan howner).right,
      (Primitive.of_plan (hother.plan_of_symbol howns)).right]
    exact owner.signature_sig_layout unit layout layout'

theorem callees_of_query (h : plan ∈ queries origin) : plan.callees = [] := by
  rcases mem_queries h with rfl | rfl
  · rfl
  · rfl

/-- What a plan calls is planned with it, whatever takes the plan. -/
theorem exists_callee {primitive : Primitive} (h : plan ∈ primitive.plans origin layout)
    {outline : Outline} (houtline : outline ∈ plan.callees) :
    exists callee, callee ∈ primitive.plans origin layout ∧ callee.toOutline = outline := by
  have hquery : plan ∉ queries origin := by
    intro hmem
    rw [callees_of_query hmem] at houtline
    cases houtline
  have hqueries : plan = clock origin layout ->
      exists callee, callee ∈ queries origin ∧ callee.toOutline = outline := by
    rintro rfl
    cases origin with
    | posix => cases houtline
    | performanceCounter => simpa [clock, queries, eq_comm] using houtline
  cases primitive with
  | elementary function type =>
      simp only [Primitive.plans, Primitive.plan?, Option.mem_toList] at h
      split at h
      all_goals
        cases h
        try cases houtline
  | kernel wanted element binding =>
      simp only [Primitive.plans, Primitive.plan?, Option.mem_toList] at h
      split at h
      all_goals
        cases h
        try cases houtline
  | clock =>
      rcases List.mem_append.mp h with hmem | hclock
      · exact absurd hmem hquery
      · rcases hqueries (List.mem_singleton.mp hclock) with ⟨callee, hcallee, heq⟩
        exact ⟨callee, List.mem_append_left _ hcallee, heq⟩
  | currentTime module =>
      rcases List.mem_append.mp h with hmem | hlast
      · exact absurd hmem hquery
      · rcases List.mem_cons.mp hlast with hclock | htime
        · rcases hqueries hclock with ⟨callee, hcallee, heq⟩
          exact ⟨callee, List.mem_append_left _ hcallee, heq⟩
        · rw [List.mem_singleton.mp htime] at houtline
          rw [List.mem_singleton.mp houtline]
          exact ⟨_, by simp [Primitive.plans], rfl⟩
  | _ =>
      rw [List.mem_singleton.mp h] at houtline
      cases houtline

theorem Regular.callees (h : plan.Regular origin layout) {outline : Outline}
    (houtline : outline ∈ plan.callees) :
    exists callee : Plan, callee.Regular origin layout ∧ callee.toOutline = outline := by
  rcases h with ⟨taker, hmem⟩
  rcases exists_callee hmem houtline with ⟨callee, hcallee, heq⟩
  exact ⟨callee, ⟨taker, hcallee⟩, heq⟩

end Plan

/-! ## Modules that were filled for several units -/

/-- A function of a module was made by a plan in a unit that had the module then. -/
structure Plan.Authors (plan : Plan) (unit : CompilationUnit) (module : Module)
    (declaration : Declaration) : Prop where
  regards : unit.Regards plan
  yields : plan.Yields unit declaration
  appends : unit.module.Appends module

/-- Every function of a module was made by a plan. -/
def Module.Authored (module : Module) : Prop :=
  forall id declaration, module.declaration? id = some declaration ->
    exists (plan : Plan) (unit : CompilationUnit), plan.Authors unit module declaration

/-- A function that goes by the name of a plan has the signature of the plan, for whichever unit it
was made. -/
theorem Module.Authored.signature? {module : Module} (h : module.Authored) {plan : Plan}
    {origin : ClockOrigin} {layout : TimeLayout} (hregular : plan.Regular origin layout)
    (hportable : .native ∉ plan.sig.params ++ plan.sig.returns.toList) {id : FuncId}
    (hlookup : module.lookup? plan.symbol.name = some id) :
    module.signature? id = some plan.toOutline.signature := by
  rcases Module.name_of_lookup? hlookup with ⟨declaration, hdeclaration, hname⟩
  rcases h id declaration hdeclaration with ⟨maker, unit, hauthors⟩
  have hsymbol : maker.symbol = plan.symbol :=
    congrArg Symbol.mk (hauthors.yields.name.symm.trans hname)
  have hsame := hauthors.regards.signature_eq hregular hsymbol unit
  rw [Module.signature?, hdeclaration, Option.map_some, hauthors.yields.signature, hsame]
  exact congrArg some (unit.signature_of_reference none hportable)

/-- Functions that go by the names of the callees of a plan have the signatures that it calls them
with. -/
def Module.Calls (module : Module) (plan : Plan) : Prop :=
  forall outline, outline ∈ plan.callees -> forall id,
    module.lookup? outline.symbol.name = some id -> module.signature? id = some outline.signature

/-- The callees of a plan that is accepted are called without native integers. -/
theorem Plan.IsAccepted.called_eq {plan : Plan} (h : plan.IsAccepted) {body : Body}
    (hbody : plan.body = some body) {outline : Outline} (houtline : outline ∈ plan.callees) :
    Outline.called plan.callees = some outline.signature ∧
      .native ∉ outline.sig.params ++ outline.sig.returns.toList := by
  rcases h.spec hbody with ⟨_, _, _, _, hcallable, _⟩
  exact Outline.spec_of_callable hcallable houtline

namespace Plan.Authors

variable {plan : Plan} {unit : CompilationUnit} {module : Module} {declaration : Declaration}

theorem code_eq_none (h : plan.Authors unit module declaration) (hbody : plan.body = none) :
    declaration.code = none := by
  rcases h.yields.code with ⟨number, _, hcode⟩
  rw [Plan.code, hbody] at hcode
  exact (Except.ok.inj hcode).symm

/-- A function that goes by the symbol of a primitive was made by the plan of the primitive. -/
theorem plan_of_lookup (h : plan.Authors unit module declaration) {id : FuncId}
    (hdeclaration : module.declaration? id = some declaration) {primitive : Primitive}
    {symbol : Symbol} (hsymbol : primitive.symbol = .ok symbol)
    (hlookup : module.lookup? symbol.name = some id) :
    primitive.plan? (.ofTarget unit.target) unit.timeLayout = some plan := by
  rcases Module.name_of_lookup? hlookup with ⟨found, hfound, hname⟩
  rw [hdeclaration] at hfound
  cases hfound
  have hsame : symbol = plan.symbol := congrArg Symbol.mk (hname.symm.trans h.yields.name)
  rw [hsame] at hsymbol
  exact h.regards.plan_of_symbol hsymbol

theorem calls (h : plan.Authors unit module declaration) (hmodule : module.Authored) {body : Body}
    (hbody : plan.body = some body) : module.Calls plan := by
  intro outline houtline id hlookup
  have hportable := (h.regards.isAccepted.called_eq hbody houtline).right
  rcases h.regards.callees houtline with ⟨callee, hregular, rfl⟩
  exact hmodule.signature? hregular hportable hlookup

/-- The code of a function is what its plan is compiled to, over the functions that go by the names
of its callees. -/
theorem exists_code (h : plan.Authors unit module declaration) (hmodule : module.Calls plan)
    {body : Body} (hbody : plan.body = some body) :
    exists compiled number near,
      body.compiled? plan.sig (Outline.called plan.callees) = some compiled ∧
        (forall place outline, plan.callees[place.index]? = some outline ->
          module.lookup? outline.symbol.name = some (number place)) ∧
          declaration.code = some { compiled.renumber number with near := near } := by
  rcases h.yields.code with ⟨number, hresolves, hcode⟩
  rcases h.regards.isAccepted.spec hbody with ⟨_, compiled, hcompiled, _, _, hplaces⟩
  have hfound : forall place outline, plan.callees[place.index]? = some outline ->
      module.lookup? outline.symbol.name = some (number place) :=
    fun place outline hplace => h.appends.grows.lookup? (hresolves place outline hplace)
  have hcalls : forall place, place ∈ body.script.callees ->
      unit.module.signature? (number place) = Outline.called plan.callees := by
    intro place hplace
    have hget := List.getElem?_eq_getElem (hplaces place (by simp [hplace]))
    have hmem := List.mem_of_getElem? hget
    have hsignature := hmodule _ hmem _ (hfound place _ hget)
    -- The unit had the callee already, as the module has it now.
    rcases Module.name_of_lookup? (hresolves place _ hget) with ⟨old, hold, _⟩
    rw [Module.signature?, h.appends.declaration? hold] at hsignature
    rw [Module.signature?, hold, hsignature]
    exact (h.regards.isAccepted.called_eq hbody hmem).left.symm
  rw [Plan.code, hbody] at hcode
  simp only [unit.procedure_of_compiled plan.symbol.name number hcompiled hcalls] at hcode
  exact ⟨compiled, number, _, hcompiled, hfound, (Except.ok.inj hcode).symm⟩

end Plan.Authors

/-! ## Functions that requests make -/

namespace Provider

variable {before after : Provider} {wanted : Request} {answer : Except Stop FuncId}

/-- A function that a request makes is made by one of its plans. -/
theorem Serves.authors (h : Serves before wanted answer after) (hcoherent : Coherent before)
    {id : FuncId} {declaration : Declaration}
    (hbefore : before.unit.module.declaration? id = none)
    (hafter : after.unit.module.declaration? id = some declaration) :
    exists (plan : Plan) (unit : CompilationUnit),
      plan.Authors unit after.unit.module declaration ∧ before.unit.Appends unit := by
  rcases h.exists_obtains with ⟨done, middle, hdone, hobtains, hunit⟩
  rw [hunit] at hafter ⊢
  rcases hobtains.declaration?_after hcoherent hafter with
    hold | ⟨plan, unit, hplan, happends, hyields, hlater, _⟩
  · rw [hbefore] at hold
    cases hold
  · have hregards := CompilationUnit.regards_of_appends happends ⟨_, hdone.subset hplan⟩
    exact ⟨plan, unit, ⟨hregards, hyields, hlater.module⟩, happends⟩

end Provider
end Provision
