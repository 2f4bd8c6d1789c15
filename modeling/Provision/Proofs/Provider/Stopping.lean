import Provision.Proofs.Module.Failing
import Provision.Proofs.Provider.Carrying

/-!
# Faults as they are met

A fault of a declaration or of a definition reaches whoever has asked as it was met.  Only what
the time takes a clock for is said to be unresolved on the way.
-/

namespace Provision

/-! ## Actions -/

namespace Action

variable {σ τ α β : Type}

/-- Nothing is said about what an action stops at. -/
def Bare (action : Action σ α) : Prop :=
  forall s stop, action.answer s = .error stop -> stop.root = stop

theorem bare_pure (x : α) : Bare (pure x : Action σ α) :=
  stopsOnly_pure x

theorem bare_fault {reason : Fault} (h : reason.root = reason) :
    Bare (fault reason : Action σ α) :=
  stopsOnly_throw (congrArg Stop.fault h)

theorem bare_misuse (misuse : Misuse) : Bare (Action.misuse misuse : Action σ α) :=
  stopsOnly_throw rfl

theorem bare_modify (change : σ -> σ) : Bare (modify change : Action σ Unit) :=
  stopsOnly_modify change

theorem Bare.bind {action : Action σ α} {next : α -> Action σ β} (h : Bare action)
    (hnext : forall x, Bare (next x)) : Bare (action >>= next) :=
  StopsOnly.bind h hnext

theorem Bare.get_bind {next : σ -> Action σ α} (h : forall s, Bare (next s)) :
    Bare (get >>= next) :=
  StopsOnly.get_bind h

theorem Bare.onPart {action : Action σ α} (h : Bare action) (part : τ -> σ) (put : σ -> τ -> τ) :
    Bare (Action.onPart part put action) :=
  StopsOnly.onPart h part put

end Action

/-! ## Compilation units -/

namespace CompilationUnit

theorem bare_record (event : Event) : Action.Bare (record event) :=
  Action.bare_modify _

theorem bare_declareImport (name : String) (sig : Signature) :
    Action.Bare (declareImport name sig) := by
  intro unit stop hstop
  unfold Action.answer at hstop
  cases hlookup : unit.lookup? name with
  | some id =>
      rw [declareImport_of_known hlookup] at hstop
      cases hstop
  | none =>
      by_cases hdata : name ∈ unit.module.data
      · rw [declareImport_of_data hlookup hdata] at hstop
        cases hstop
        rfl
      · rw [declareImport_of_free hlookup hdata] at hstop
        cases hstop

theorem bare_define (name : String) (sig : Signature) (linkage : Linkage) (body : Body) :
    Action.Bare (define name sig linkage body) := by
  intro unit stop hstop
  unfold Action.answer at hstop
  cases hrun : define name sig linkage body unit with
  | ok id after =>
      rw [hrun] at hstop
      cases hstop
  | error cause after =>
      rw [hrun] at hstop
      cases hstop
      cases stop with
      | misuse misuse => rfl
      | fault fault =>
          rcases define_eq_fault hrun with ⟨hscript | ⟨_, rfl⟩, _⟩ | ⟨_, _, _, rfl, _⟩
          · rcases Script.fault?_cases hscript with ⟨_, rfl⟩ | ⟨_, rfl⟩
            · rfl
            · rfl
          · rfl
          · rfl

end CompilationUnit

/-! ## Primitives -/

theorem Primitive.root_of_fault {primitive : Primitive} {fault : Fault}
    (h : primitive.fault? = some fault) : fault.root = fault := by
  cases primitive
  case elementary function type =>
      rcases Option.ite_none_left_eq_some.mp h with ⟨_, hfault⟩
      cases hfault
      rfl
  case kernel wanted element binding =>
      rcases Option.ite_none_left_eq_some.mp h with ⟨_, hfault⟩
      cases hfault
      rfl
  all_goals cases h

theorem Primitive.root_of_symbol {primitive : Primitive} {fault : Fault}
    (h : primitive.symbol = .error fault) : fault.root = fault := by
  cases hfault : primitive.fault? with
  | none =>
      rcases exists_symbol hfault with ⟨symbol, hsymbol⟩
      rw [hsymbol] at h
      cases h
  | some other =>
      rw [symbol_of_fault hfault] at h
      cases h
      exact root_of_fault hfault

/-! ## Providers -/

namespace Provider

open CompilationUnit

theorem bare_onUnit {α : Type} {action : Action CompilationUnit α} (h : Action.Bare action) :
    Action.Bare (onUnit action) :=
  h.onPart _ _

theorem bare_record (event : Event) : Action.Bare (record event) :=
  bare_onUnit (CompilationUnit.bare_record event)

theorem bare_remember (symbol : Symbol) (id : FuncId) :
    Action.Bare (rememberBy Registry.register symbol id) := by
  refine Action.Bare.onPart (Action.Bare.get_bind fun registry => ?_) _ _
  cases registry.find? symbol with
  | none => exact fun _ _ h => nomatch h
  | some old =>
      simp only
      split
      · exact Action.bare_pure _
      · exact Action.bare_misuse _

theorem bare_obtain (symbol : Symbol) {make : Action CompilationUnit FuncId}
    (h : Action.Bare make) : Action.Bare (obtain symbol make) := by
  refine Action.Bare.get_bind fun provider => ?_
  cases provider.registry.find? symbol with
  | some id => exact (bare_record _).bind fun _ => Action.bare_pure id
  | none =>
      cases provider.unit.lookup? symbol.name with
      | some id =>
          refine (bare_record _).bind fun _ => ?_
          exact (bare_remember symbol id).bind fun _ => Action.bare_pure id
      | none =>
          refine (bare_onUnit h).bind fun id => ?_
          exact (bare_remember symbol id).bind fun _ => Action.bare_pure id

/-- Nothing is said of a fault on the way, except where the time takes a clock. -/
theorem providing_bare : Providing Action.Bare where
  bind := fun h hnext => h.bind hnext
  look := fun h _ => .get_bind h
  unsupported := fun h => Action.bare_fault (Primitive.root_of_symbol h)
  imported := fun symbol sig => bare_obtain symbol (bare_declareImport _ sig)
  synthesized := fun symbol sig linkage body _ _ =>
    bare_obtain symbol (bare_define _ sig linkage body)
  defined := fun _ _ symbol =>
    bare_obtain symbol ((CompilationUnit.bare_record _).bind fun _ => bare_define _ _ _ _)

end Provider
end Provision
