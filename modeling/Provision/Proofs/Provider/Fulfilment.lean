import Provision.Proofs.Provider.Planned

/-!
# Requests that go by plan

Every request is answered as its primitive says, and carries out the plans of the primitive: one
step for each plan that it takes.
-/

namespace Provision
namespace Provider

open CompilationUnit

variable {plans : List Plan} {provider : Provider}

/-! ## Elementary functions and kernels -/

theorem elementary_planned (h : Planned plans provider.unit) (hcoherent : Coherent provider)
    (function : ElementaryFunction) (type : DataType) :
    (Primitive.elementary function type).Answered ((elementary function type).answer provider) ∧
      Planned (plans ++ provider.unit.plansOf (.elementary function type))
        ((elementary function type).leaves provider).unit := by
  have hregular : forall plan, (Primitive.elementary function type).plan?
      (ClockOrigin.ofTarget provider.unit.target) provider.unit.timeLayout = some plan ->
        provider.unit.Regards plan :=
    fun plan hplan => ⟨.elementary function type, Option.mem_toList.mpr hplan⟩
  unfold elementary Generic.elementary Primitive.Answered
  simp only [Primitive.plans, Primitive.plan?] at hregular ⊢
  cases hfault : (Primitive.elementary function type).fault? with
  | some fault =>
      have hsymbol : function.symbol type = .error fault := Primitive.symbol_of_fault hfault
      simp only [hsymbol, Option.toList_none, List.append_nil]
      exact ⟨rfl, h⟩
  | none =>
      rcases Primitive.exists_symbol hfault with ⟨symbol, hprimitive⟩
      have hsymbol : function.symbol type = .ok symbol := hprimitive
      simp only [hsymbol] at hregular ⊢
      cases hinstruction : function.instruction? with
      | none =>
          simp only [hinstruction, Option.toList_some] at hregular ⊢
          exact imported_planned h hcoherent (hregular _ rfl)
      | some instruction =>
          simp only [hinstruction, Option.toList_some] at hregular ⊢
          exact simple_planned h hcoherent (hregular _ rfl)

theorem kernel_planned (h : Planned plans provider.unit) (hcoherent : Coherent provider)
    (wanted : Kernel) (element : DataType) (binding : Binding) :
    (Primitive.kernel wanted element binding).Answered
        ((kernel wanted element binding).answer provider) ∧
      Planned (plans ++ provider.unit.plansOf (.kernel wanted element binding))
        ((kernel wanted element binding).leaves provider).unit := by
  have hregular : forall plan, (Primitive.kernel wanted element binding).plan?
      (ClockOrigin.ofTarget provider.unit.target) provider.unit.timeLayout = some plan ->
        provider.unit.Regards plan :=
    fun plan hplan => ⟨.kernel wanted element binding, Option.mem_toList.mpr hplan⟩
  unfold kernel Generic.kernel Primitive.Answered
  simp only [Primitive.plans, Primitive.plan?] at hregular ⊢
  cases hfault : (Primitive.kernel wanted element binding).fault? with
  | some fault =>
      have hsymbol : wanted.symbol element binding = .error fault :=
        Primitive.symbol_of_fault hfault
      simp only [hsymbol, Option.toList_none, List.append_nil]
      exact ⟨rfl, h⟩
  | none =>
      rcases Primitive.exists_symbol hfault with ⟨symbol, hprimitive⟩
      have hsymbol : wanted.symbol element binding = .ok symbol := hprimitive
      simp only [hsymbol] at hregular ⊢
      cases binding with
      | library => exact imported_planned h hcoherent (hregular _ rfl)
      | module =>
          have hplan := hregular _ rfl
          refine obtain_planned h hcoherent hplan (makes_defineKernel wanted element symbol) ?_
          intro hfree
          let told : CompilationUnit :=
            { provider.unit with
              log := provider.unit.log ++ [.synthesizing symbol.name wanted element] }
          have htold : Planned plans told := h.alike ⟨_, rfl⟩
          exact carries_simple htold hplan hfree

/-! ## Clocks -/

theorem counterClock_planned {layout : TimeLayout} {counter frequency : FuncId}
    (h : Planned plans provider.unit) (hcoherent : Coherent provider)
    (hregular : forall plan, plan ∈ Primitive.clock.plans .performanceCounter layout ->
      provider.unit.Regards plan)
    (hcounter : provider.unit.lookup? Symbol.queryCounter.name = some counter)
    (hfrequency : provider.unit.lookup? Symbol.queryFrequency.name = some frequency) :
    Fulfils
      (synthesized Symbol.clock (Routine.clockSignature layout) .internal
        (Routine.counterClock counter frequency layout))
      provider plans [.clock .performanceCounter layout] := by
  let plan := Plan.clock .performanceCounter layout
  -- The body of the plan calls the counter at the first place and the frequency at the second.
  let number : FuncId -> FuncId := fun place => if place.index = 0 then counter else frequency
  have hplan : provider.unit.Regards plan :=
    hregular plan (by simp [Primitive.plans, Plan.queries, plan])
  have hresolves : plan.Resolves provider.unit number := by
    rintro ⟨place⟩ outline hplace
    rcases place with _ | _ | place
    · cases hplace
      exact hcounter
    · cases hplace
      exact hfrequency
    · cases hplace
  have hcallees : forall outline, outline ∈ plan.callees ->
      exists other, provider.unit.Regards other ∧ other.toOutline = outline := by
    intro outline houtline
    have hboth : outline = Plan.queryCounter.toOutline ∨
        outline = Plan.queryFrequency.toOutline := by
      simpa [plan, Plan.clock] using houtline
    rcases hboth with rfl | rfl
    · exact ⟨_, hregular Plan.queryCounter (by simp [Primitive.plans, Plan.queries]), rfl⟩
    · exact ⟨_, hregular Plan.queryFrequency (by simp [Primitive.plans, Plan.queries]), rfl⟩
  have hcarries := carries_define h hplan rfl hresolves hcallees
  exact obtain_planned h hcoherent hplan (makes_define _ _ _ rfl) hcarries

theorem clock_planned (h : Planned plans provider.unit) (hcoherent : Coherent provider) :
    Fulfils clockFunction provider plans (provider.unit.plansOf .clock) := by
  have horigin := hcoherent.origin
  have hregular : forall plan, plan ∈ provider.unit.plansOf .clock ->
      provider.unit.Regards plan := by
    intro plan hplan
    exact ⟨.clock, hplan⟩
  unfold Fulfils
  unfold plansOf at hregular ⊢
  rw [clockFunction, Generic.clockFunction, Action.answer_get_bind, Action.leaves_get_bind]
  cases hclock : provider.clock with
  | posix =>
      rw [hclock] at horigin
      rw [← horigin] at hregular ⊢
      exact imported_planned h hcoherent (hregular _ (List.mem_singleton_self _))
  | performanceCounter =>
      rw [hclock] at horigin
      rw [← horigin] at hregular ⊢
      let first := imported Symbol.queryCounter Routine.querySignature
      let second := imported Symbol.queryFrequency Routine.querySignature
      have hcounterPlan : provider.unit.Regards Plan.queryCounter :=
        hregular _ (by simp [Primitive.plans, Plan.queries])
      have hfrequencyPlan : provider.unit.Regards Plan.queryFrequency :=
        hregular _ (by simp [Primitive.plans, Plan.queries])
      rcases imported_planned h hcoherent hcounterPlan with ⟨⟨counter, hcounter⟩, hone⟩
      rcases always_imported Symbol.queryCounter Routine.querySignature provider hcoherent with
        ⟨hfirst, hmiddle⟩
      rcases imported_planned hone hmiddle (regards_of_appends hfirst.unit hfrequencyPlan) with
        ⟨⟨frequency, hfrequency⟩, htwo⟩
      rcases always_imported Symbol.queryFrequency Routine.querySignature _ hmiddle with
        ⟨hsecond, hlast⟩
      have hlater := CompilationUnit.Appends.trans hfirst.unit hsecond.unit
      have hthree := counterClock_planned htwo hlast
        (fun plan hplan => regards_of_appends hlater (hregular plan hplan))
        (hsecond.unit.grows.lookup? (hcoherent.imported_answer hcounter))
        (hmiddle.imported_answer hfrequency)
      simp only [Action.answer_bind, Action.leaves_bind, hcounter, hfrequency]
      simp only [Fulfils, List.append_assoc] at hthree
      exact hthree

/-! ## Current time -/

theorem timeOver_planned (clock : FuncId) (h : Planned plans provider.unit)
    (hcoherent : Coherent provider)
    (hregular : forall plan, plan ∈ provider.unit.plansOf (.currentTime provider.unit.name) ->
      provider.unit.Regards plan)
    (hclock : provider.unit.lookup? Symbol.clock.name = some clock) :
    Fulfils (timeOver clock) provider plans
      [.currentTime (ClockOrigin.ofTarget provider.unit.target) provider.unit.timeLayout
        provider.unit.name] := by
  let origin := ClockOrigin.ofTarget provider.unit.target
  let plan := Plan.currentTime origin provider.unit.timeLayout provider.unit.name
  have hplan : provider.unit.Regards plan := hregular plan (by simp [Primitive.plans, plan, origin])
  have hclockPlan : provider.unit.Regards (.clock origin provider.unit.timeLayout) :=
    hregular _ (by simp [Primitive.plans, origin])
  have hsymbol : (Plan.clock origin provider.unit.timeLayout).symbol = Symbol.clock := by
    cases origin
    · rfl
    · rfl
  have hresolves : plan.Resolves provider.unit fun _ => clock := by
    rintro ⟨place⟩ outline hplace
    cases place with
    | zero =>
        cases hplace
        rw [hsymbol]
        exact hclock
    | succ place => cases hplace
  have hcallees : forall outline, outline ∈ plan.callees ->
      exists other, provider.unit.Regards other ∧ other.toOutline = outline := by
    intro outline houtline
    rw [List.mem_singleton.mp houtline]
    exact ⟨_, hclockPlan, rfl⟩
  have hcarries := carries_define h hplan rfl hresolves hcallees
  unfold Fulfils
  rw [timeOver, Generic.timeOver, Action.answer_get_bind, Action.leaves_get_bind]
  exact obtain_planned h hcoherent hplan (makes_define _ _ _ rfl) hcarries

theorem makeTime_planned (h : Planned plans provider.unit) (hcoherent : Coherent provider) :
    Fulfils makeTime provider plans
      (provider.unit.plansOf (.currentTime provider.unit.name)) := by
  have hregular : forall plan, plan ∈ provider.unit.plansOf (.currentTime provider.unit.name) ->
      provider.unit.Regards plan := by
    intro plan hplan
    exact ⟨_, hplan⟩
  rcases clock_planned h hcoherent with ⟨⟨clock, hclock⟩, hone⟩
  rcases timing_advances.clockFunction provider hcoherent with ⟨happends, hmiddle⟩
  have hname := (hcoherent.clock_answer hclock).right
  have htwo := timeOver_planned clock hone hmiddle
  simp only [plansOf, happends.unit.name, happends.unit.target, happends.unit.timeLayout] at htwo
  rcases htwo (fun plan hplan => regards_of_appends happends.unit (hregular plan hplan)) hname with
    ⟨⟨id, htime⟩, hlast⟩
  have hcoherentLast := (timing_advances.timeOver clock _ hmiddle).right
  have htold := hlast.alike (hcoherentLast.record (.currentTimeReady id provider.clock)).unit
  unfold Fulfils
  rw [makeTime, Action.answer_get_bind, Action.leaves_get_bind]
  simp only [Action.answer_bind, Action.leaves_bind, Action.answer_mapFault, Action.leaves_mapFault,
    hclock, Action.wrapStop, htime]
  refine ⟨⟨id, rfl⟩, ?_⟩
  have hplans : plans ++ provider.unit.plansOf (.currentTime provider.unit.name) =
      plans ++ provider.unit.plansOf .clock ++
        [.currentTime (ClockOrigin.ofTarget provider.unit.target) provider.unit.timeLayout
          provider.unit.name] := by
    simp [plansOf, Primitive.plans]
  rw [hplans]
  exact htold

/-- When a provider remembers the function that tells the time, all that it takes is there. -/
theorem known_of_remembered {id : FuncId} (hcoherent : Coherent provider)
    (htime : provider.currentTime = some id) {plan : Plan}
    (hplan : plan ∈ provider.unit.plansOf (.currentTime provider.unit.name)) :
    exists other, provider.unit.lookup? plan.symbol.name = some other := by
  have hclocked := hcoherent.clocked id htime
  rw [hcoherent.origin] at hclocked
  unfold plansOf at hplan
  generalize ClockOrigin.ofTarget provider.unit.target = origin at hclocked hplan
  have hsymbols : plan.symbol ∈ origin.symbols ∨
      plan.symbol = Symbol.currentTime provider.unit.name := by
    rcases List.mem_append.mp hplan with hquery | hlast
    · cases origin
      · cases hquery
      · rcases Plan.mem_queries hquery with rfl | rfl
        · exact .inl (by decide +kernel)
        · exact .inl (by decide +kernel)
    · rcases List.mem_cons.mp hlast with rfl | htime
      · cases origin
        · exact .inl (List.mem_singleton_self _)
        · exact .inl (by simp [ClockOrigin.symbols, Plan.clock])
      · rw [List.mem_singleton.mp htime]
        exact .inr rfl
  rcases hsymbols with hclock | htold
  · exact hclocked plan.symbol hclock
  · rw [htold]
    exact ⟨id, hcoherent.remembered id htime⟩

theorem time_planned (h : Planned plans provider.unit) (hcoherent : Coherent provider) :
    Fulfils timeFunction provider plans
      (provider.unit.plansOf (.currentTime provider.unit.name)) := by
  unfold Fulfils
  cases htime : provider.currentTime with
  | some id =>
      rw [Action.answer, Action.leaves, timeFunction_of_remembered htime]
      refine ⟨⟨id, rfl⟩, h.append_known ?_ ?_⟩
      · intro plan hplan
        exact ⟨_, hplan⟩
      · intro plan hplan
        rcases known_of_remembered hcoherent htime hplan with ⟨other, hother⟩
        exact Module.mem_names_of_lookup? hother
  | none =>
      rcases timeFunction_like_makeTime htime with ⟨hanswer, hunit, _, _⟩
      rw [hanswer, hunit]
      exact makeTime_planned h hcoherent

/-! ## Requests -/

/-- A request is answered as its primitive says, and carries out the plans of the primitive. -/
theorem request_planned (h : Planned plans provider.unit) (hcoherent : Coherent provider)
    (wanted : Request) :
    (wanted.primitive provider.config provider.unit.name).Answered
        ((request wanted).answer provider) ∧
      Planned (plans ++ provider.unit.plansOf (wanted.primitive provider.config provider.unit.name))
        ((request wanted).leaves provider).unit := by
  cases wanted with
  | elementary function type => exact elementary_planned h hcoherent function type
  | kernel wanted element binding =>
      rw [request, Generic.request, Action.answer_get_bind, Action.leaves_get_bind]
      exact kernel_planned h hcoherent wanted element _
  | getThreads => exact imported_planned h hcoherent ⟨.getThreads, List.mem_singleton_self _⟩
  | setThreads => exact imported_planned h hcoherent ⟨.setThreads, List.mem_singleton_self _⟩
  | dot element =>
      rw [request, Generic.request, Generic.dot, Action.answer_get_bind, Action.leaves_get_bind]
      exact simple_planned h hcoherent
        ⟨.dot element provider.unit.name, List.mem_singleton_self _⟩
  | clock => exact clock_planned h hcoherent
  | currentTime => exact time_planned h hcoherent

end Provider
end Provision
