import Provision.Proofs.Provider.Carrying

/-!
# What requests do

In any module whatever, a request is not supported, or it is for the time and is remembered, or it
carries out the plans of its primitive.
-/

namespace Provision

/-! ## Callees of the clock and of the time -/

namespace Plan

variable {unit : CompilationUnit} {layout : TimeLayout}

/-- The clock over the performance counters calls the counter at the first place and the frequency
at the second. -/
def queryNumber (counter frequency : FuncId) (place : FuncId) : FuncId :=
  if place.index = 0 then counter else frequency

theorem resolves_clock {counter frequency : FuncId}
    (hcounter : unit.lookup? Symbol.queryCounter.name = some counter)
    (hfrequency : unit.lookup? Symbol.queryFrequency.name = some frequency) :
    (clock .performanceCounter layout).Resolves unit (queryNumber counter frequency) := by
  rintro ⟨place⟩ outline hplace
  rcases place with _ | _ | place
  · cases hplace
    exact hcounter
  · cases hplace
    exact hfrequency
  · cases hplace

theorem make_clock (counter frequency : FuncId) :
    (clock .performanceCounter layout).make (queryNumber counter frequency) =
      CompilationUnit.define Symbol.clock.name (Routine.clockSignature layout) .internal
        (Routine.counterClock counter frequency layout) := rfl

theorem symbol_clock (origin : ClockOrigin) : (clock origin layout).symbol = Symbol.clock := by
  cases origin
  · rfl
  · rfl

theorem resolves_currentTime {origin : ClockOrigin} {module : String} {clock : FuncId}
    (h : unit.lookup? Symbol.clock.name = some clock) :
    (currentTime origin layout module).Resolves unit fun _ => clock := by
  rintro ⟨place⟩ outline hplace
  cases place with
  | zero =>
      cases hplace
      rw [symbol_clock]
      exact h
  | succ place => cases hplace

theorem make_currentTime (origin : ClockOrigin) (module : String) (clock : FuncId) :
    (currentTime origin layout module).make (fun _ => clock) =
      CompilationUnit.define (Symbol.currentTime module).name Routine.currentTimeSignature .exported
        (Routine.currentTime clock layout) := rfl

end Plan

namespace Provider

open CompilationUnit

variable {provider : Provider}

/-! ## Elementary functions and kernels -/

/-- The callees of a plan without callees go by their names under any numbers. -/
theorem resolves_of_callees_nil {plan : Plan} (unit : CompilationUnit) (h : plan.callees = []) :
    plan.Resolves unit id := by
  intro place outline hplace
  rw [h] at hplace
  cases hplace

theorem Coherent.imported_performs (h : Coherent provider) (symbol : Symbol) (sig : Signature) :
    Performs (imported symbol sig) provider [.imported symbol sig] := by
  have haccepted : (Plan.imported symbol sig).IsAccepted := rfl
  exact h.obtain_performs haccepted (resolves_of_callees_nil provider.unit rfl) ⟨_, rfl⟩

/-- A function that calls no others is synthesized; something may be told before. -/
theorem Coherent.simple_performs (h : Coherent provider) {symbol : Symbol} {linkage : Linkage}
    {sig : Signature} {body : Body}
    (hregular : provider.unit.Regards (.simple symbol linkage sig body))
    {make : Action CompilationUnit FuncId}
    (hmake : exists log, make provider.unit =
      CompilationUnit.define symbol.name sig linkage body { provider.unit with log := log }) :
    Performs (obtain symbol make) provider [.simple symbol linkage sig body] := by
  refine h.obtain_performs hregular.isAccepted (resolves_of_callees_nil provider.unit rfl) ?_
  rcases hmake with ⟨log, hmake⟩
  refine ⟨log, ?_⟩
  rw [hmake, Plan.make]
  simp only [Plan.simple, Body.renumber_id]

theorem Coherent.elementary_performs (h : Coherent provider) (function : ElementaryFunction)
    (type : DataType) {symbol : Symbol} (hsymbol : function.symbol type = .ok symbol) :
    Performs (elementary function type) provider
      (provider.unit.plansOf (.elementary function type)) := by
  have hregular : forall plan, plan ∈ provider.unit.plansOf (.elementary function type) ->
      provider.unit.Regards plan := fun plan hplan => ⟨_, hplan⟩
  simp only [plansOf, Primitive.plans, Primitive.plan?, Generic.elementary, hsymbol] at hregular ⊢
  cases hinstruction : function.instruction? with
  | none =>
      simp only [hinstruction, Option.toList_some] at hregular ⊢
      exact h.imported_performs _ _
  | some instruction =>
      simp only [hinstruction, Option.toList_some] at hregular ⊢
      exact h.simple_performs (hregular _ (List.mem_singleton_self _)) ⟨_, rfl⟩

theorem Coherent.kernel_performs (h : Coherent provider) (wanted : Kernel) (element : DataType)
    (binding : Binding) {symbol : Symbol} (hsymbol : wanted.symbol element binding = .ok symbol) :
    Performs (kernel wanted element binding) provider
      (provider.unit.plansOf (.kernel wanted element binding)) := by
  have hregular : forall plan, plan ∈ provider.unit.plansOf (.kernel wanted element binding) ->
      provider.unit.Regards plan := fun plan hplan => ⟨_, hplan⟩
  simp only [plansOf, Primitive.plans, Primitive.plan?, Generic.kernel, hsymbol] at hregular ⊢
  cases binding with
  | library => exact h.imported_performs _ _
  | module =>
      refine h.simple_performs (hregular _ (List.mem_singleton_self _)) ?_
      exact ⟨provider.unit.log ++ [.synthesizing symbol.name wanted element], rfl⟩

/-! ## Clocks -/

theorem Coherent.clock_performs (h : Coherent provider) :
    Performs clockFunction provider (provider.unit.plansOf .clock) := by
  have hregular : forall plan, plan ∈ provider.unit.plansOf .clock ->
      provider.unit.Regards plan := fun plan hplan => ⟨.clock, hplan⟩
  unfold plansOf at hregular ⊢
  have horigin := h.origin
  rw [← horigin] at hregular ⊢
  unfold Performs
  rw [clockFunction, Generic.clockFunction, Action.answer_get_bind, Action.leaves_get_bind]
  cases hclock : provider.clock with
  | posix =>
      exact h.imported_performs _ _
  | performanceCounter =>
      rw [hclock] at hregular
      have hclockPlan := hregular (.clock .performanceCounter provider.unit.timeLayout)
        (by simp [Primitive.plans, Plan.queries])
      apply (h.imported_performs Symbol.queryCounter Routine.querySignature).bind
      intro counter hcounter
      have hmiddle := (always_imported Symbol.queryCounter Routine.querySignature _ h).right
      apply (hmiddle.imported_performs Symbol.queryFrequency Routine.querySignature).bind
      intro frequency hfrequency
      rcases always_imported Symbol.queryFrequency Routine.querySignature _ hmiddle with
        ⟨hsecond, hlast⟩
      have hcounterName := hsecond.unit.grows.lookup? (h.imported_answer hcounter)
      have hfrequencyName := hmiddle.imported_answer hfrequency
      refine hlast.obtain_performs hclockPlan.isAccepted
        (Plan.resolves_clock hcounterName hfrequencyName) ?_
      rw [Plan.make_clock]
      exact ⟨_, rfl⟩

/-! ## Current time -/

/-- Something may be told of an answer. -/
theorem Performs.record {action : Action Provider FuncId} {plans : List Plan}
    (h : Performs action provider plans) (event : FuncId -> Event) :
    Performs (do let id ← action; record (event id); pure id) provider plans := by
  unfold Performs at h ⊢
  rw [Action.answer_bind, Action.leaves_bind]
  cases hanswer : action.answer provider with
  | error stop =>
      rw [hanswer] at h
      exact h
  | ok id =>
      rw [hanswer] at h
      cases h with
      | carried hplans hobtains hid => exact .carried hplans (hobtains.logging _) hid

theorem Coherent.makeTime_performs (h : Coherent provider) :
    Performs makeTime provider (provider.unit.plansOf (.currentTime provider.unit.name)) := by
  have hplans : provider.unit.plansOf (.currentTime provider.unit.name) =
      provider.unit.plansOf .clock ++
        [.currentTime (ClockOrigin.ofTarget provider.unit.target) provider.unit.timeLayout
          provider.unit.name] := by
    simp [plansOf, Primitive.plans]
  have hplan : provider.unit.Regards
      (.currentTime (ClockOrigin.ofTarget provider.unit.target) provider.unit.timeLayout
        provider.unit.name) := ⟨.currentTime provider.unit.name, by simp [Primitive.plans]⟩
  rw [hplans]
  unfold Performs
  rw [makeTime, Action.answer_get_bind, Action.leaves_get_bind]
  apply (h.clock_performs.mapFault Symbol.clock.name).bind
  intro clock hclock
  rw [Action.leaves_mapFault]
  have hname := (h.clock_answer (Action.answer_of_mapFault hclock)).right
  rcases timing_advances.clockFunction provider h with ⟨happends, hcoherent⟩
  apply Performs.record
  unfold Performs
  rw [timeOver, Generic.timeOver, Action.answer_get_bind, Action.leaves_get_bind,
    happends.unit.name, happends.unit.timeLayout]
  refine hcoherent.obtain_performs hplan.isAccepted (Plan.resolves_currentTime hname) ?_
  rw [Plan.make_currentTime]
  exact ⟨_, rfl⟩

/-! ## Requests -/

/-- A provider remembers the time that it has answered with. -/
def remembering (wanted : Request) (answer : Except Stop FuncId) (provider : Provider) :
    Provider :=
  match wanted with
  | .currentTime =>
      match answer with
      | .ok id => { provider with currentTime := some id }
      | .error _ => provider
  | _ => provider

/-- What a provider does on a request. -/
inductive Serves (before : Provider) (wanted : Request) : Except Stop FuncId -> Provider -> Prop
    where
  | unsupported {fault : Fault}
      (h : (wanted.primitive before.config before.unit.name).fault? = some fault) :
      Serves before wanted (.error (.fault fault)) before
  | remembered {id : FuncId} (hwanted : wanted = .currentTime)
      (h : before.currentTime = some id) : Serves before wanted (.ok id) before
  | performed {answer : Except Stop FuncId} {after : Provider}
      (hforgotten : wanted = .currentTime -> before.currentTime = none)
      (h : Outcome (before.unit.plansOf (wanted.primitive before.config before.unit.name)) before
        answer after) :
      Serves before wanted answer (remembering wanted answer after)

theorem Serves.of_performs {wanted : Request} (hwanted : wanted ≠ .currentTime)
    (hperforms : Performs (request wanted) provider
      (provider.unit.plansOf (wanted.primitive provider.config provider.unit.name))) :
    Serves provider wanted ((request wanted).answer provider)
      ((request wanted).leaves provider) := by
  have hserves := Serves.performed (fun htime => absurd htime hwanted) hperforms
  cases wanted
  case currentTime => exact absurd rfl hwanted
  all_goals exact hserves

/-- A request that is not supported does nothing. -/
theorem request_of_fault {wanted : Request} {fault : Fault}
    (h : (wanted.primitive provider.config provider.unit.name).fault? = some fault) :
    request wanted provider = .error (.fault fault) provider := by
  have hsymbol := Primitive.symbol_of_fault h
  cases wanted with
  | elementary function type =>
      have hnone : function.symbol type = .error fault := hsymbol
      simp only [request, Generic.request, Generic.elementary, hnone]
      rfl
  | kernel wanted element binding =>
      have hnone : wanted.symbol element (binding.getD provider.config.binding) = .error fault :=
        hsymbol
      simp only [request, Generic.request, Generic.kernel, Action.run_bind, Action.run_get, hnone]
      rfl
  | _ => cases hsymbol

theorem Coherent.request_serves (h : Coherent provider) (wanted : Request) :
    Serves provider wanted ((request wanted).answer provider)
      ((request wanted).leaves provider) := by
  cases hfault : (wanted.primitive provider.config provider.unit.name).fault? with
  | some fault =>
      rw [Action.answer, Action.leaves, request_of_fault hfault]
      exact .unsupported hfault
  | none =>
      rcases Primitive.exists_symbol hfault with ⟨symbol, hsymbol⟩
      cases wanted with
      | elementary function type =>
          exact .of_performs (by simp) (h.elementary_performs function type hsymbol)
      | kernel wanted element binding =>
          refine .of_performs (by simp) ?_
          unfold Performs
          rw [request, Generic.request, Action.answer_get_bind, Action.leaves_get_bind]
          exact h.kernel_performs wanted element _ hsymbol
      | getThreads => exact .of_performs (by simp) (h.imported_performs _ _)
      | setThreads => exact .of_performs (by simp) (h.imported_performs _ _)
      | dot element =>
          refine .of_performs (by simp) ?_
          unfold Performs
          rw [request, Generic.request, Generic.dot, Action.answer_get_bind, Action.leaves_get_bind]
          have hplan : provider.unit.Regards (.simple (element.symbol provider.unit.name) .exported
              element.signature (Routine.dot element.type)) :=
            ⟨.dot element provider.unit.name, List.mem_singleton_self _⟩
          exact h.simple_performs hplan ⟨_, rfl⟩
      | clock => exact .of_performs (by simp) h.clock_performs
      | currentTime =>
          cases htime : provider.currentTime with
          | some id =>
              have hrun : request .currentTime provider = .ok id provider :=
                timeFunction_of_remembered htime
              rw [Action.answer, Action.leaves, hrun]
              exact .remembered rfl htime
          | none =>
              have hserves : Serves provider .currentTime _ _ :=
                .performed (fun _ => htime) h.makeTime_performs
              have hrun : request .currentTime provider = _ := timeFunction_of_forgotten htime
              unfold Action.answer Action.leaves at hserves ⊢
              rw [hrun]
              cases hmade : makeTime provider with
              | ok id after =>
                  rw [hmade] at hserves
                  exact hserves
              | error stop after =>
                  rw [hmade] at hserves
                  exact hserves

end Provider
end Provision
