import Provision.Proofs.Provider.Coherent
import Provision.Proofs.Provider.Composing

/-!
# Requests to coherent providers

Every request keeps a provider coherent and only appends to its module, and a function that is
answered goes by the name of what was asked for.
-/

namespace Provision
namespace Provider

/-! ## What can be made -/

theorem makes_defineKernel (kernel : Kernel) (element : DataType) (symbol : Symbol) :
    CompilationUnit.Makes symbol.name (defineKernel kernel element symbol) :=
  (CompilationUnit.makes_define symbol.name (kernel.signature element)
    (Routine.kernel kernel element) rfl).after_record (.synthesizing symbol.name kernel element)

theorem always_imported (symbol : Symbol) (sig : Signature) :
    Action.Always Advances (imported symbol sig) :=
  always_obtain (CompilationUnit.makes_declareImport symbol.name sig)

theorem always_synthesized (symbol : Symbol) (sig : Signature) (linkage : Linkage) (body : Body)
    (hlinkage : linkage.isDefinable = true) :
    Action.Always Advances (synthesized symbol sig linkage body) :=
  always_obtain (CompilationUnit.makes_define symbol.name sig body hlinkage)

variable {provider : Provider} {id : FuncId}

theorem Coherent.imported_answer (h : Coherent provider) {symbol : Symbol} {sig : Signature}
    (hid : (imported symbol sig).answer provider = .ok id) :
    ((imported symbol sig).leaves provider).unit.lookup? symbol.name = some id :=
  h.obtain_answer (CompilationUnit.makes_declareImport symbol.name sig) hid

theorem Coherent.synthesized_answer (h : Coherent provider) {symbol : Symbol} {sig : Signature}
    {linkage : Linkage} {body : Body} (hlinkage : linkage.isDefinable = true)
    (hid : (synthesized symbol sig linkage body).answer provider = .ok id) :
    ((synthesized symbol sig linkage body).leaves provider).unit.lookup? symbol.name = some id :=
  h.obtain_answer (CompilationUnit.makes_define symbol.name sig body hlinkage) hid

theorem advances_refl (provider : Provider) : Advances provider provider :=
  fun h => ⟨Appends.refl provider, h⟩

theorem Advances.bind {α β : Type} {action : Action Provider α} {next : α -> Action Provider β}
    (h : Action.Always Advances action) (hnext : forall x, Action.Always Advances (next x)) :
    Action.Always Advances (action >>= next) :=
  h.bind (fun _ _ _ => Advances.trans) hnext

/-- Everything that a provider does by its rules keeps it coherent. -/
theorem timing_advances : Timing (Action.Always Advances) where
  bind := Advances.bind
  look := fun h _ => .get_bind h
  unsupported := fun _ => advances_refl
  imported := always_imported
  synthesized := fun symbol sig _ _ hlinkage _ => always_synthesized symbol sig _ _ hlinkage
  defined := fun wanted element symbol => always_obtain (makes_defineKernel wanted element symbol)
  pure := fun _ => advances_refl
  mapFault := fun wrap h => h.mapFault wrap
  ready := fun id clock _ h => (h.record (.currentTimeReady id clock)).advances

/-! ## Elementary functions and kernels -/

theorem Coherent.elementary_answer (h : Coherent provider) {function : ElementaryFunction}
    {type : DataType} (hid : (elementary function type).answer provider = .ok id) :
    exists symbol, function.symbol type = .ok symbol ∧
      ((elementary function type).leaves provider).unit.lookup? symbol.name = some id := by
  unfold elementary Generic.elementary at hid ⊢
  cases hsymbol : function.symbol type with
  | error fault =>
      rw [hsymbol] at hid
      cases hid
  | ok symbol =>
      rw [hsymbol] at hid
      refine ⟨symbol, rfl, ?_⟩
      cases hinstruction : function.instruction? with
      | none =>
          rw [hinstruction] at hid
          exact h.imported_answer hid
      | some instruction =>
          rw [hinstruction] at hid
          exact h.synthesized_answer rfl hid

theorem Coherent.kernel_answer (h : Coherent provider) {wanted : Kernel} {element : DataType}
    {binding : Binding} (hid : (kernel wanted element binding).answer provider = .ok id) :
    exists symbol, wanted.symbol element binding = .ok symbol ∧
      ((kernel wanted element binding).leaves provider).unit.lookup? symbol.name = some id := by
  unfold kernel Generic.kernel at hid ⊢
  cases hsymbol : wanted.symbol element binding with
  | error fault =>
      rw [hsymbol] at hid
      cases hid
  | ok symbol =>
      rw [hsymbol] at hid
      refine ⟨symbol, rfl, ?_⟩
      cases binding with
      | library => exact h.imported_answer hid
      | module => exact h.obtain_answer (makes_defineKernel wanted element symbol) hid

/-! ## Clocks -/

/-- After the clock has been provided, all functions that it takes are there. -/
theorem Coherent.clock_answer (h : Coherent provider)
    (hid : clockFunction.answer provider = .ok id) :
    (clockFunction.leaves provider).unit.HasClock provider.clock ∧
      (clockFunction.leaves provider).unit.lookup? Symbol.clock.name = some id := by
  rw [clockFunction, Generic.clockFunction, Action.answer_get_bind] at hid
  rw [clockFunction, Generic.clockFunction, Action.leaves_get_bind]
  cases hclock : provider.clock with
  | posix =>
      rw [hclock] at hid
      have hanswer := h.imported_answer hid
      constructor
      · intro symbol hsymbol
        rw [List.mem_singleton.mp hsymbol]
        exact ⟨id, hanswer⟩
      · exact hanswer
  | performanceCounter =>
      rw [hclock] at hid
      rcases Action.exists_of_answer_bind hid with ⟨counter, hcounter, hrest⟩
      rcases Action.exists_of_answer_bind hrest with ⟨frequency, hfrequency, hlast⟩
      simp only [Action.leaves_bind_of_answer hcounter, Action.leaves_bind_of_answer hfrequency]
      have hfirst := always_imported Symbol.queryCounter Routine.querySignature provider h
      have hsecond := always_imported Symbol.queryFrequency Routine.querySignature _ hfirst.right
      have hthird := always_synthesized Symbol.clock
        (Routine.clockSignature provider.unit.timeLayout) .internal
        (Routine.counterClock counter frequency provider.unit.timeLayout) rfl _ hsecond.right
      have hlater := hsecond.left.unit.grows.trans hthird.left.unit.grows
      have hcounterName := hlater.lookup? (h.imported_answer hcounter)
      have hfrequencyName :=
        hthird.left.unit.grows.lookup? (hfirst.right.imported_answer hfrequency)
      have hname := hsecond.right.synthesized_answer rfl hlast
      constructor
      · intro symbol hsymbol
        simp only [ClockOrigin.symbols, List.mem_cons, List.not_mem_nil, or_false] at hsymbol
        rcases hsymbol with rfl | rfl | rfl
        · exact ⟨counter, hcounterName⟩
        · exact ⟨frequency, hfrequencyName⟩
        · exact ⟨id, hname⟩
      · exact hname

/-! ## Current time -/

theorem Coherent.timeOver_answer (h : Coherent provider) {clock : FuncId}
    (hid : (timeOver clock).answer provider = .ok id) :
    ((timeOver clock).leaves provider).unit.lookup?
      (Symbol.currentTime provider.unit.name).name = some id := by
  rw [timeOver, Generic.timeOver, Action.answer_get_bind] at hid
  rw [timeOver, Generic.timeOver, Action.leaves_get_bind]
  exact h.synthesized_answer rfl hid

/-- A provider may remember the function that tells the time, once all that it takes is there. -/
theorem Coherent.remember (h : Coherent provider)
    (hname : provider.unit.lookup? (Symbol.currentTime provider.unit.name).name = some id)
    (hclock : provider.unit.HasClock provider.clock) :
    Coherent { provider with currentTime := some id } where
  origin := h.origin
  registered := h.registered
  remembered := by
    intro other hother
    cases hother
    exact hname
  clocked := fun _ _ => hclock

/-- The steps by which the time is provided the first time, except for remembering it. -/
def makeTime : Action Provider FuncId := do
  let provider ← get
  let clock ← Action.mapFault (.unresolved Symbol.clock.name) clockFunction
  let id ← timeOver clock
  record (.currentTimeReady id provider.clock)
  pure id

theorem Timing.makeTime {holds : forall {α : Type}, Action Provider α -> Prop}
    (h : Timing holds) : holds Provider.makeTime := by
  refine h.look (fun provider => ?_) fun p q hlike => ?_
  · apply h.bind (h.mapFault _ h.clockFunction)
    intro clock
    apply h.bind (h.timeOver clock)
    intro id
    exact h.bind (h.ready id provider.clock) fun _ => h.pure id
  · simp only [hlike.clock]

theorem timeFunction_of_remembered (h : provider.currentTime = some id) :
    timeFunction provider = .ok id provider := by
  simp only [timeFunction, Generic.timeFunction, Action.run_bind, Action.run_get, h]
  rfl

theorem timeFunction_of_forgotten (h : provider.currentTime = none) :
    timeFunction provider =
      match makeTime provider with
      | .ok id after => .ok id { after with currentTime := some id }
      | .error stop after => .error stop after := by
  simp only [timeFunction, Generic.timeFunction, makeTime, clockFunction, timeOver,
    Action.run_bind, Action.run_get, h]
  cases Action.mapFault (.unresolved Symbol.clock.name) (Generic.clockFunction obtain) provider with
  | error stop after => rfl
  | ok clock after =>
      simp only
      cases Generic.timeOver obtain clock after with
      | error stop after => rfl
      | ok id after => rfl

/-- Providing the time the first time is making it, except for remembering it. -/
theorem timeFunction_like_makeTime (h : provider.currentTime = none) :
    timeFunction.answer provider = makeTime.answer provider ∧
      (timeFunction.leaves provider).unit = (makeTime.leaves provider).unit ∧
        (timeFunction.leaves provider).config = (makeTime.leaves provider).config ∧
          (timeFunction.leaves provider).clock = (makeTime.leaves provider).clock := by
  unfold Action.answer Action.leaves
  rw [timeFunction_of_forgotten h]
  cases makeTime provider with
  | ok id after => exact ⟨rfl, rfl, rfl, rfl⟩
  | error stop after => exact ⟨rfl, rfl, rfl, rfl⟩

theorem Coherent.makeTime_answer (h : Coherent provider)
    (hid : makeTime.answer provider = .ok id) :
    (makeTime.leaves provider).unit.lookup? (Symbol.currentTime provider.unit.name).name = some id ∧
      (makeTime.leaves provider).unit.HasClock provider.clock := by
  rw [makeTime, Action.answer_get_bind] at hid
  rw [makeTime, Action.leaves_get_bind]
  rcases Action.exists_of_answer_bind hid with ⟨clock, hwrapped, hrest⟩
  rw [Action.leaves_mapFault] at hrest
  rcases Action.exists_of_answer_bind hrest with ⟨time, htime, hlast⟩
  cases hlast
  rw [Action.leaves_bind_of_answer hwrapped, Action.leaves_mapFault,
    Action.leaves_bind_of_answer htime]
  rcases timing_advances.clockFunction provider h with ⟨happends, hcoherent⟩
  rcases timing_advances.timeOver clock _ hcoherent with ⟨hmore, _⟩
  have hname := hcoherent.timeOver_answer htime
  rw [happends.unit.name] at hname
  have hclock := (h.clock_answer (Action.answer_of_mapFault hwrapped)).left
  have hthere := hclock.grows hmore.unit.grows
  exact ⟨hname, hthere⟩

theorem always_timeFunction : Action.Always Advances timeFunction := by
  intro provider h
  cases htime : provider.currentTime with
  | some id =>
      rw [Action.leaves, timeFunction_of_remembered htime]
      exact advances_refl provider h
  | none =>
      have hadvances := timing_advances.makeTime provider h
      have hanswer := fun id (hid : makeTime.answer provider = .ok id) => h.makeTime_answer hid
      rw [Action.leaves, timeFunction_of_forgotten htime]
      unfold Action.answer Action.leaves at *
      cases hmade : makeTime provider with
      | error stop after =>
          rw [hmade] at hadvances
          exact hadvances
      | ok id after =>
          rw [hmade] at hadvances hanswer
          rcases hadvances with ⟨happends, hcoherent⟩
          rcases hanswer id rfl with ⟨hname, hclock⟩
          refine ⟨⟨happends.unit, happends.config, happends.clock⟩, hcoherent.remember ?_ ?_⟩
          · rw [happends.unit.name]
            exact hname
          · rw [happends.clock]
            exact hclock

theorem Coherent.time_answer (h : Coherent provider)
    (hid : timeFunction.answer provider = .ok id) :
    (timeFunction.leaves provider).unit.lookup? (Symbol.currentTime provider.unit.name).name =
      some id := by
  cases htime : provider.currentTime with
  | some other =>
      rw [Action.answer, timeFunction_of_remembered htime] at hid
      cases hid
      rw [Action.leaves, timeFunction_of_remembered htime]
      exact h.remembered id htime
  | none =>
      rcases timeFunction_like_makeTime htime with ⟨hanswer, hunit, _, _⟩
      rw [hanswer] at hid
      rw [hunit]
      exact (h.makeTime_answer hid).left

/-! ## Requests -/

theorem always_request (wanted : Request) : Action.Always Advances (request wanted) :=
  timing_advances.request_of_time always_timeFunction wanted

/-- The function that is answered goes by the name of the primitive that was asked for. -/
theorem Coherent.request_answer (h : Coherent provider) {wanted : Request}
    (hid : (request wanted).answer provider = .ok id) :
    exists symbol,
      (wanted.primitive provider.config provider.unit.name).symbol = .ok symbol ∧
        ((request wanted).leaves provider).unit.lookup? symbol.name = some id := by
  cases wanted with
  | elementary function type => exact h.elementary_answer hid
  | kernel wanted element binding =>
      rw [request, Generic.request, Action.answer_get_bind] at hid
      rw [request, Generic.request, Action.leaves_get_bind]
      exact h.kernel_answer hid
  | getThreads => exact ⟨Symbol.getThreads, rfl, h.imported_answer hid⟩
  | setThreads => exact ⟨Symbol.setThreads, rfl, h.imported_answer hid⟩
  | dot element =>
      rw [request, Generic.request, Generic.dot, Action.answer_get_bind] at hid
      rw [request, Generic.request, Generic.dot, Action.leaves_get_bind]
      exact ⟨_, rfl, h.synthesized_answer rfl hid⟩
  | clock => exact ⟨Symbol.clock, rfl, (h.clock_answer hid).right⟩
  | currentTime => exact ⟨_, rfl, h.time_answer hid⟩

end Provider
end Provision
