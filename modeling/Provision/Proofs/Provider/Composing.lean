import Provision.Proofs.Provider.Primitive
import Provision.Proofs.Script.Outcome
import Provision.Provider

/-!
# What requests are composed of

A request comes down to functions that are declared or defined under symbols, one after another.
What is said of actions here is a property that is kept when one action goes on with another.  It is
then enough that declaring and defining have it, and every request has it too.
-/

namespace Provision
namespace Provider

/-- Two providers look alike to a request that has not looked for a function yet. -/
structure LooksLike (p q : Provider) : Prop where
  name : p.unit.name = q.unit.name
  timeLayout : p.unit.timeLayout = q.unit.timeLayout
  config : p.config = q.config
  clock : p.clock = q.clock

/-! ## Properties of what is composed -/

/-- A property of all requests but those for the time.  What is defined is the module's own, and its
slots fit into a frame. -/
structure Providing (holds : forall {α : Type}, Action Provider α -> Prop) : Prop where
  bind : forall {α β : Type} {action : Action Provider α} {next : α -> Action Provider β},
    holds action -> (forall x, holds (next x)) -> holds (action >>= next)
  look : forall {α : Type} {next : Provider -> Action Provider α},
    (forall provider, holds (next provider)) -> (forall p q, LooksLike p q -> next p = next q) ->
      holds (get >>= next)
  unsupported : forall {primitive : Primitive} {fault : Fault}, primitive.symbol = .error fault ->
    holds (Action.fault fault : Action Provider FuncId)
  imported : forall symbol sig, holds (imported symbol sig)
  synthesized : forall symbol sig {linkage : Linkage} {body : Body}, linkage.isDefinable = true ->
    StackSlot.fitFrame body.script.slots = true -> holds (synthesized symbol sig linkage body)
  defined : forall wanted element symbol,
    holds (obtain symbol (defineKernel wanted element symbol))

/-- A property that making the time has as well, before the provider remembers it. -/
structure Timing (holds : forall {α : Type}, Action Provider α -> Prop) : Prop
    extends Providing holds where
  pure : forall {α : Type} (x : α), holds (pure x : Action Provider α)
  mapFault : forall {α : Type} {action : Action Provider α} (wrap : Fault -> Fault), holds action ->
    holds (Action.mapFault wrap action)
  ready : forall id clock, holds (record (.currentTimeReady id clock))

/-- A property of all requests, whatever the provider remembers. -/
structure Remembering (holds : forall {α : Type}, Action Provider α -> Prop) : Prop
    extends Timing holds where
  get_bind : forall {α : Type} {next : Provider -> Action Provider α},
    (forall provider, holds (next provider)) -> holds (get >>= next)
  keep : forall id,
    holds (modify fun provider : Provider => { provider with currentTime := some id })

end Provider

/-! ## Frames of what is defined -/

theorem fitFrame_nil : StackSlot.fitFrame [] = true := by
  decide

theorem Routine.fits_kernel (wanted : Kernel) (element : DataType) :
    StackSlot.fitFrame (kernel wanted element).script.slots = true := by
  cases wanted
  · exact fitFrame_nil
  · exact fitFrame_nil

theorem Routine.fits_dot (element : DotElement) :
    StackSlot.fitFrame (dot element.type).script.slots = true := by
  cases element
  · exact fitFrame_nil
  · exact fitFrame_nil

theorem Routine.fits_counterClock (counter frequency : FuncId) (layout : TimeLayout) :
    StackSlot.fitFrame (counterClock counter frequency layout).script.slots = true := by
  have hslots : (counterClock counter frequency layout).script.slots =
      [{ size := 8, alignShift := 3 }, { size := 8, alignShift := 3 }] := rfl
  rw [hslots]
  decide

theorem Routine.fits_currentTime (clock : FuncId) (layout : TimeLayout) :
    StackSlot.fitFrame (currentTime clock layout).script.slots = true := by
  have hslots : (currentTime clock layout).script.slots =
      [{ size := layout.size, alignShift := layout.alignShift }] := rfl
  rw [hslots]
  cases layout
  · decide
  · decide

variable {holds : forall {α : Type}, Action Provider α -> Prop}

/-! ## Requests -/

namespace Provider.Providing

variable (h : Providing holds)

include h

theorem elementary (function : ElementaryFunction) (type : DataType) :
    holds (Provider.elementary function type) := by
  unfold Provider.elementary Generic.elementary
  cases hsymbol : function.symbol type with
  | error fault =>
      have hunsupported : (Primitive.elementary function type).symbol = .error fault := hsymbol
      exact h.unsupported hunsupported
  | ok symbol =>
      cases function.instruction? with
      | none => exact h.imported symbol _
      | some instruction => exact h.synthesized symbol _ rfl fitFrame_nil

theorem kernel (wanted : Kernel) (element : DataType) (binding : Binding) :
    holds (Provider.kernel wanted element binding) := by
  unfold Provider.kernel Generic.kernel
  cases hsymbol : wanted.symbol element binding with
  | error fault =>
      have hunsupported : (Primitive.kernel wanted element binding).symbol = .error fault := hsymbol
      exact h.unsupported hunsupported
  | ok symbol =>
      cases binding with
      | library => exact h.imported symbol _
      | module => exact h.defined wanted element symbol

theorem dot (element : DotElement) : holds (Provider.dot element) := by
  refine h.look (fun provider => ?_) fun p q hlike => ?_
  · exact h.synthesized _ _ rfl (Routine.fits_dot element)
  · simp only [hlike.name]

theorem clockFunction : holds Provider.clockFunction := by
  refine h.look (fun provider => ?_) fun p q hlike => ?_
  · cases provider.clock with
    | posix => exact h.imported _ _
    | performanceCounter =>
        apply h.bind (h.imported _ _)
        intro counter
        apply h.bind (h.imported _ _)
        intro frequency
        exact h.synthesized _ _ rfl (Routine.fits_counterClock counter frequency _)
  · simp only [hlike.clock, hlike.timeLayout]

theorem timeOver (clock : FuncId) : holds (Provider.timeOver clock) := by
  refine h.look (fun provider => ?_) fun p q hlike => ?_
  · exact h.synthesized _ _ rfl (Routine.fits_currentTime clock _)
  · simp only [hlike.name, hlike.timeLayout]

theorem request {wanted : Request} (hwanted : wanted ≠ .currentTime) :
    holds (Provider.request wanted) := by
  cases wanted with
  | elementary function type => exact h.elementary function type
  | kernel wanted element binding =>
      refine h.look (fun provider => h.kernel wanted element _) fun p q hlike => ?_
      simp only [hlike.config]
  | getThreads => exact h.imported _ _
  | setThreads => exact h.imported _ _
  | dot element => exact h.dot element
  | clock => exact h.clockFunction
  | currentTime => exact absurd rfl hwanted

theorem request_of_time (htime : holds Provider.timeFunction) (wanted : Request) :
    holds (Provider.request wanted) := by
  cases wanted with
  | currentTime => exact htime
  | _ => exact h.request nofun

end Provider.Providing

namespace Provider.Remembering

variable (h : Remembering holds)

include h

theorem timeFunction : holds Provider.timeFunction := by
  refine h.get_bind fun provider => ?_
  cases provider.currentTime with
  | some id => exact h.pure id
  | none =>
      apply h.bind (h.mapFault _ h.clockFunction)
      intro clock
      apply h.bind (h.timeOver clock)
      intro id
      apply h.bind (h.ready id provider.clock)
      intro _
      exact h.bind (h.keep id) fun _ => h.pure id

theorem request (wanted : Request) : holds (Provider.request wanted) :=
  h.request_of_time h.timeFunction wanted

end Provider.Remembering
end Provision
