import Provision.Proofs.Provider.Requests

/-!
# Providers that match

Providers over the same module match, whatever each of them remembers.  A request to either of them
is answered the same, and they still match after it.
-/

namespace Provision
namespace Provider

/-- Two coherent providers are for the same and over the same module. -/
structure Matches (p q : Provider) : Prop where
  unit : p.unit.Alike q.unit
  config : p.config = q.config
  clock : p.clock = q.clock
  first : Coherent p
  second : Coherent q

variable {p q : Provider}

theorem Matches.looksLike (h : Matches p q) : LooksLike p q where
  name := h.unit.appends.name.symm
  timeLayout := h.unit.appends.timeLayout.symm
  config := h.config
  clock := h.clock

theorem Matches.lookup? (h : Matches p q) (name : String) :
    q.unit.lookup? name = p.unit.lookup? name := by
  rw [CompilationUnit.lookup?, h.unit.module, CompilationUnit.lookup?]

theorem Matches.name (h : Matches p q) : q.unit.name = p.unit.name :=
  h.unit.appends.name

/-- What providers tell and remember does not matter. -/
theorem Matches.tell {p' q' : Provider} (h : Matches p q) (hp : Tells p p') (hq : Tells q q') :
    Matches p' q' where
  unit := (hp.unit.symm.trans h.unit).trans hq.unit
  config := by rw [hp.config, hq.config, h.config]
  clock := by rw [hp.clock, hq.clock, h.clock]
  first := hp.coherent
  second := hq.coherent

theorem Matches.symm (h : Matches p q) : Matches q p :=
  ⟨h.unit.symm, h.config.symm, h.clock.symm, h.second, h.first⟩

theorem Coherent.matches_self (h : Coherent p) : Matches p p :=
  ⟨CompilationUnit.Alike.refl p.unit, rfl, rfl, h, h⟩

theorem Coherent.tells_refl (h : Coherent p) : Tells p p :=
  ⟨CompilationUnit.Alike.refl p.unit, rfl, rfl, h⟩

/-! ## Obtaining a function -/

theorem respects_obtain {symbol : Symbol} {make : Action CompilationUnit FuncId}
    (hmake : CompilationUnit.Makes symbol.name make) :
    Action.Respects Matches (obtain symbol make) (obtain symbol make) := by
  intro p q h
  cases hlookup : p.unit.lookup? symbol.name with
  | some id =>
      rcases h.first.obtain_known hlookup make with ⟨hanswer, htells⟩
      rcases h.second.obtain_known ((h.lookup? _).trans hlookup) make with ⟨hother, hotherTells⟩
      rw [hanswer, hother]
      exact ⟨rfl, h.tell htells hotherTells⟩
  | none =>
      rcases h.first.obtain_free hlookup hmake with ⟨hanswer, hunit, happends, hcoherent⟩
      rcases h.second.obtain_free ((h.lookup? _).trans hlookup) hmake with
        ⟨hother, hotherUnit, hotherAppends, hotherCoherent⟩
      rcases hmake.respects p.unit q.unit h.unit with ⟨hsame, halike⟩
      refine ⟨?_, ?_, ?_, ?_, hcoherent, hotherCoherent⟩
      · rw [hanswer, hother, hsame]
      · rw [hunit, hotherUnit]
        exact halike
      · rw [happends.config, hotherAppends.config, h.config]
      · rw [happends.clock, hotherAppends.clock, h.clock]

theorem respects_record (event : Event) : Action.Respects Matches (record event) (record event) :=
  fun _ _ h => ⟨rfl, h.tell (h.first.record event) (h.second.record event)⟩

/-- Providers that match do alike whatever they do by their rules. -/
theorem timing_respects : Timing fun action => Action.Respects Matches action action where
  bind := fun h hnext => h.bind hnext
  look := by
    intro α next h hlike p q hmatches
    rw [Action.answer_get_bind, Action.answer_get_bind, Action.leaves_get_bind,
      Action.leaves_get_bind, hlike p q hmatches.looksLike]
    exact h q p q hmatches
  unsupported := fun _ => Action.respects_fault _
  imported := fun symbol sig =>
    respects_obtain (CompilationUnit.makes_declareImport symbol.name sig)
  synthesized := fun symbol sig _ body hlinkage _ =>
    respects_obtain (CompilationUnit.makes_define symbol.name sig body hlinkage)
  defined := fun wanted element symbol =>
    respects_obtain (makes_defineKernel wanted element symbol)
  pure := Action.respects_pure
  mapFault := fun wrap h => h.mapFault wrap
  ready := fun _ _ => respects_record _

/-! ## Asking again -/

/-- An action answers something and changes nothing but what a provider tells and remembers. -/
def Finds {α : Type} (p : Provider) (action : Action Provider α) (x : α) : Prop :=
  action.answer p = .ok x ∧ Tells p (action.leaves p)

theorem Finds.bind {α β : Type} {action : Action Provider α} {next : α -> Action Provider β} {x : α}
    {y : β} (h : Finds p action x) (hnext : Finds (action.leaves p) (next x) y) :
    Finds p (action >>= next) y := by
  unfold Finds
  rw [Action.answer_bind, Action.leaves_bind, h.left]
  exact ⟨hnext.left, h.right.trans hnext.right⟩

theorem Finds.mapFault {α : Type} {action : Action Provider α} {x : α} (h : Finds p action x)
    (wrap : Fault -> Fault) : Finds p (Action.mapFault wrap action) x := by
  unfold Finds
  rw [Action.answer_mapFault, Action.leaves_mapFault, h.left]
  exact ⟨rfl, h.right⟩

theorem Tells.lookup? (h : Tells p q) {name : String} {id : FuncId}
    (hid : p.unit.lookup? name = some id) : q.unit.lookup? name = some id :=
  h.unit.appends.grows.lookup? hid

theorem Coherent.finds_clock (h : Coherent p)
    (hknown : p.unit.HasClock p.clock) :
    exists id, Finds p clockFunction id := by
  simp only [Finds, Generic.clockFunction, Action.answer_get_bind, Action.leaves_get_bind]
  cases hclock : p.clock with
  | posix =>
      rw [hclock] at hknown
      rcases hknown Symbol.clock (by simp [ClockOrigin.symbols]) with ⟨id, hid⟩
      exact ⟨id, h.obtain_known hid _⟩
  | performanceCounter =>
      rw [hclock] at hknown
      rcases hknown Symbol.queryCounter (by simp [ClockOrigin.symbols]) with ⟨counter, hcounter⟩
      rcases hknown Symbol.queryFrequency (by simp [ClockOrigin.symbols]) with
        ⟨frequency, hfrequency⟩
      rcases hknown Symbol.clock (by simp [ClockOrigin.symbols]) with ⟨id, hid⟩
      have hfirst : Finds p (imported Symbol.queryCounter Routine.querySignature) counter :=
        h.obtain_known hcounter _
      have hsecond : Finds _ (imported Symbol.queryFrequency Routine.querySignature) frequency :=
        hfirst.right.coherent.obtain_known (hfirst.right.lookup? hfrequency) _
      refine ⟨id, hfirst.bind (hsecond.bind ?_)⟩
      exact hsecond.right.coherent.obtain_known
        (hsecond.right.lookup? (hfirst.right.lookup? hid)) _

theorem Coherent.finds_record (h : Coherent p) (event : Event) :
    Finds p (Provider.record event) ⟨⟩ :=
  ⟨rfl, h.record event⟩

/-- If all functions that the time takes are there, and it too, asking for it changes nothing; a
provider that remembers the time need not even look for the clock. -/
theorem Coherent.finds_time (h : Coherent p) {id : FuncId}
    (hclock : p.unit.HasClock p.clock)
    (htime : p.unit.lookup? (Symbol.currentTime p.unit.name).name = some id) :
    Finds p timeFunction id := by
  cases hmemory : p.currentTime with
  | some found =>
      have hfound := h.remembered found hmemory
      rw [htime] at hfound
      cases hfound
      rw [Finds, Action.answer, Action.leaves, timeFunction_of_remembered hmemory]
      exact ⟨rfl, h.tells_refl⟩
  | none =>
      rcases h.finds_clock hclock with ⟨clock, hfindsClock⟩
      have hcoherent := hfindsClock.right.coherent
      have hname : (clockFunction.leaves p).unit.lookup?
          (Symbol.currentTime (clockFunction.leaves p).unit.name).name = some id := by
        rw [hfindsClock.right.unit.appends.name]
        exact hfindsClock.right.lookup? htime
      have hfindsTime : Finds (clockFunction.leaves p) (timeOver clock) id := by
        simp only [Finds, Generic.timeOver, Action.answer_get_bind, Action.leaves_get_bind]
        exact hcoherent.obtain_known hname _
      have hfinds : Finds p makeTime id := by
        simp only [Finds, makeTime, Action.answer_get_bind, Action.leaves_get_bind]
        apply (hfindsClock.mapFault _).bind
        rw [Action.leaves_mapFault]
        refine hfindsTime.bind ((hfindsTime.right.coherent.finds_record _).bind ?_)
        exact ⟨rfl, (hfindsTime.right.coherent.record _).coherent.tells_refl⟩
      rcases timeFunction_like_makeTime hmemory with ⟨hanswer, hunit, hconfig, hclockSame⟩
      refine ⟨hanswer.trans hfinds.left, ?_, ?_, ?_, (always_timeFunction p h).right⟩
      · rw [hunit]
        exact hfinds.right.unit
      · rw [hconfig, hfinds.right.config]
      · rw [hclockSame, hfinds.right.clock]

/-- A provider that remembers the time answers as one that does not. -/
theorem respects_timeFunction : Action.Respects Matches timeFunction timeFunction := by
  -- If one remembers the time, all that it takes is in the module, where the other finds it.
  have hremembered : forall {p q id}, Matches p q -> p.currentTime = some id ->
      timeFunction.answer p = timeFunction.answer q ∧
        Matches (timeFunction.leaves p) (timeFunction.leaves q) := by
    intro p q id h hmemory
    have htime := h.first.remembered id hmemory
    have hclock := h.first.clocked id hmemory
    have hfinds := h.first.finds_time hclock htime
    have hother : Finds q timeFunction id := by
      refine h.second.finds_time ?_ ?_
      · intro symbol hsymbol
        rw [← h.clock] at hsymbol
        rw [h.lookup?]
        exact hclock symbol hsymbol
      · rw [h.name, h.lookup?]
        exact htime
    rw [hfinds.left, hother.left]
    exact ⟨rfl, h.tell hfinds.right hother.right⟩
  intro p q h
  cases hp : p.currentTime with
  | some id => exact hremembered h hp
  | none =>
      cases hq : q.currentTime with
      | some id =>
          rcases hremembered h.symm hq with ⟨hanswer, hleaves⟩
          exact ⟨hanswer.symm, hleaves.symm⟩
      | none =>
          rcases timing_respects.makeTime p q h with ⟨hanswer, hleaves⟩
          rcases timeFunction_like_makeTime hp with ⟨hpAnswer, hpUnit, hpConfig, hpClock⟩
          rcases timeFunction_like_makeTime hq with ⟨hqAnswer, hqUnit, hqConfig, hqClock⟩
          refine ⟨?_, ?_, ?_, ?_, (always_timeFunction p h.first).right,
            (always_timeFunction q h.second).right⟩
          · rw [hpAnswer, hqAnswer, hanswer]
          · rw [hpUnit, hqUnit]
            exact hleaves.unit
          · rw [hpConfig, hqConfig, hleaves.config]
          · rw [hpClock, hqClock, hleaves.clock]

/-! ## Requests -/

theorem respects_request (wanted : Request) :
    Action.Respects Matches (request wanted) (request wanted) :=
  timing_respects.request_of_time respects_timeFunction wanted

end Provider
end Provision
