import Provision.Proofs.Module.Declaring
import Provision.Provider

/-!
# Making functions

What actions on a compilation unit have in common: they keep what the unit is for, and let its
module grow.  An action that makes a function under a free name appends it to the module.
-/

namespace Provision
namespace CompilationUnit

/-! ## Units that differ in their logs -/

/-- Units are the same but for what they tell. -/
def Alike (u v : CompilationUnit) : Prop :=
  exists log, v = { u with log := log }

theorem Alike.refl (unit : CompilationUnit) : Alike unit unit :=
  ⟨unit.log, rfl⟩

theorem Alike.symm {u v : CompilationUnit} (h : Alike u v) : Alike v u := by
  rcases h with ⟨log, rfl⟩
  exact ⟨u.log, rfl⟩

theorem Alike.trans {u v w : CompilationUnit} (huv : Alike u v) (hvw : Alike v w) : Alike u w := by
  rcases huv with ⟨log, rfl⟩
  rcases hvw with ⟨other, rfl⟩
  exact ⟨other, rfl⟩

theorem Alike.module {u v : CompilationUnit} (h : Alike u v) : v.module = u.module := by
  rcases h with ⟨log, rfl⟩
  rfl

theorem respects_record (event : Event) : Action.Respects Alike (record event) (record event) := by
  rintro u _ ⟨log, rfl⟩
  exact ⟨rfl, log ++ [event], rfl⟩

theorem respects_onModule {α : Type} (action : Action Module α) :
    Action.Respects Alike (onModule action) (onModule action) := by
  rintro u _ ⟨log, rfl⟩
  rw [onModule, Action.answer_onPart, Action.answer_onPart, Action.leaves_onPart,
    Action.leaves_onPart]
  exact ⟨rfl, log, rfl⟩

theorem respects_declareImport (name : String) (sig : Signature) :
    Action.Respects Alike (declareImport name sig) (declareImport name sig) := by
  rintro u v ⟨log, hv⟩
  have hlookup : v.lookup? name = u.lookup? name := by
    simp only [hv, lookup?]
  have hsignature : v.signature sig = u.signature sig := by
    simp only [hv, signature, lowering]
  unfold declareImport
  simp only [Action.answer_get_bind, Action.leaves_get_bind, hlookup, hsignature]
  cases u.lookup? name with
  | some id => exact ⟨rfl, log, hv⟩
  | none =>
      refine Action.Respects.bind (respects_onModule _) (fun id => ?_) u v ⟨log, hv⟩
      exact (respects_record _).bind fun _ => Action.respects_pure id

theorem respects_define (name : String) (sig : Signature) (linkage : Linkage) (body : Body) :
    Action.Respects Alike (define name sig linkage body) (define name sig linkage body) := by
  rintro u v ⟨log, hv⟩
  have hsignature : v.signature sig = u.signature sig := by
    simp only [hv, signature, lowering]
  have hprocedure : v.procedure name sig body = u.procedure name sig body := by
    simp only [hv, procedure, site, lowering, signature]
  unfold define
  simp only [Action.answer_get_bind, Action.leaves_get_bind, hprocedure, hsignature]
  cases u.procedure name sig body with
  | error stop => exact ⟨rfl, log, hv⟩
  | ok procedure =>
      refine Action.Respects.bind (respects_onModule _) (fun id => ?_) u v ⟨log, hv⟩
      apply (respects_onModule _).bind
      intro _
      exact (respects_record _).bind fun _ => Action.respects_pure id

/-! ## Units that grow -/

/-- A unit is for what it was, and its module has changed in some way. -/
structure Changes (how : Module -> Module -> Prop) (before after : CompilationUnit) : Prop where
  name : after.name = before.name
  target : after.target = before.target
  timeLayout : after.timeLayout = before.timeLayout
  module : how before.module after.module

/-- Functions keep their numbers and names. -/
abbrev Grows : CompilationUnit -> CompilationUnit -> Prop :=
  Changes Module.Grows

/-- Functions stay as they are. -/
abbrev Appends : CompilationUnit -> CompilationUnit -> Prop :=
  Changes Module.Appends

theorem Alike.appends {u v : CompilationUnit} (h : Alike u v) : Appends u v := by
  rcases h with ⟨log, rfl⟩
  exact ⟨rfl, rfl, rfl, .refl u.module⟩

theorem Changes.trans (how : Module -> Module -> Prop)
    (htrans : forall a b c, how a b -> how b c -> how a c) {u v w : CompilationUnit}
    (huv : Changes how u v) (hvw : Changes how v w) : Changes how u w where
  name := hvw.name.trans huv.name
  target := hvw.target.trans huv.target
  timeLayout := hvw.timeLayout.trans huv.timeLayout
  module := htrans _ _ _ huv.module hvw.module

theorem Changes.grows {u v : CompilationUnit} (h : Appends u v) : Grows u v :=
  ⟨h.name, h.target, h.timeLayout, h.module.grows⟩

theorem Grows.refl (unit : CompilationUnit) : Grows unit unit :=
  ⟨rfl, rfl, rfl, Module.Grows.refl unit.module⟩

theorem Grows.trans {u v w : CompilationUnit} (huv : Grows u v) (hvw : Grows v w) : Grows u w :=
  Changes.trans Module.Grows (fun _ _ _ => Module.Grows.trans) huv hvw

theorem Appends.trans {u v w : CompilationUnit} (huv : Appends u v) (hvw : Appends v w) :
    Appends u w :=
  Changes.trans Module.Appends (fun _ _ _ => Module.Appends.trans) huv hvw

theorem Changes.lookup? {u v : CompilationUnit} (h : Grows u v) {name : String} {id : FuncId}
    (hid : u.lookup? name = some id) : v.lookup? name = some id :=
  h.module.lookup? hid

theorem Grows.bind {α β : Type} {action : Action CompilationUnit α}
    {next : α -> Action CompilationUnit β} (h : Action.Always Grows action)
    (hnext : forall x, Action.Always Grows (next x)) : Action.Always Grows (action >>= next) :=
  h.bind (fun _ _ _ => Grows.trans) hnext

theorem always_onModule {α : Type} {action : Action Module α}
    (h : Action.Always Module.Evolves action) : Action.Always Grows (onModule action) := by
  intro unit
  rw [onModule, Action.leaves_onPart]
  exact ⟨rfl, rfl, rfl, (h unit.module).grows⟩

theorem always_record (event : Event) : Action.Always Grows (record event) :=
  fun unit => ⟨rfl, rfl, rfl, Module.Grows.refl unit.module⟩

theorem always_declareImport (name : String) (sig : Signature) :
    Action.Always Grows (declareImport name sig) := by
  intro unit
  unfold declareImport
  rw [Action.leaves_get_bind]
  cases unit.lookup? name with
  | some id => exact Grows.refl unit
  | none =>
      refine Grows.bind (always_onModule (Module.always_declare name _ _)) (fun id => ?_) unit
      exact Grows.bind (always_record _) fun _ => Grows.refl

theorem always_define (name : String) (sig : Signature) (linkage : Linkage) (body : Body) :
    Action.Always Grows (define name sig linkage body) := by
  intro unit
  unfold define
  rw [Action.leaves_get_bind]
  cases unit.procedure name sig body with
  | error stop => exact Grows.refl unit
  | ok procedure =>
      refine Grows.bind (always_onModule (Module.always_declare name _ _)) (fun id => ?_) unit
      refine Grows.bind (always_onModule (Module.always_define name id procedure)) fun _ => ?_
      exact Grows.bind (always_record _) fun _ => Grows.refl

/-! ## Making a function -/

/-- An action makes a function under a free name.  It changes no other function, and makes the same
one whatever the unit has told before. -/
structure Makes (name : String) (make : Action CompilationUnit FuncId) : Prop where
  appends : forall unit, unit.lookup? name = none -> Appends unit (make.leaves unit)
  names : forall unit id, unit.lookup? name = none -> make.answer unit = .ok id ->
    (make.leaves unit).lookup? name = some id
  respects : Action.Respects Alike make make

theorem appends_push {unit : CompilationUnit} (declaration : Declaration) (log : Log)
    (h : unit.lookup? declaration.name = none) :
    Appends unit { unit with module := unit.module.push declaration, log := log } :=
  ⟨rfl, rfl, rfl, .push (.refl unit.module) declaration (Module.lookup?_eq_none_iff.mp h)⟩

theorem makes_declareImport (name : String) (sig : Signature) :
    Makes name (declareImport name sig) where
  appends := by
    intro unit h
    by_cases hdata : name ∈ unit.module.data
    · rw [Action.leaves, declareImport_of_data h hdata]
      exact (Alike.refl unit).appends
    · rw [Action.leaves, declareImport_of_free h hdata]
      exact appends_push _ _ h
  names := by
    intro unit id h hid
    by_cases hdata : name ∈ unit.module.data
    · rw [Action.answer, declareImport_of_data h hdata] at hid
      cases hid
    · rw [Action.answer, declareImport_of_free h hdata] at hid
      cases hid
      rw [Action.leaves, declareImport_of_free h hdata]
      exact Module.lookup?_push_self _ h
  respects := respects_declareImport name sig

theorem makes_define (name : String) (sig : Signature) {linkage : Linkage} (body : Body)
    (hlinkage : linkage.isDefinable = true) : Makes name (define name sig linkage body) where
  appends := by
    intro unit h
    cases hprocedure : unit.procedure name sig body with
    | error stop =>
        rw [Action.leaves, define_of_stop hprocedure]
        exact (Alike.refl unit).appends
    | ok procedure =>
        by_cases hdata : name ∈ unit.module.data
        · rw [Action.leaves, define_of_data hprocedure h hdata]
          exact (Alike.refl unit).appends
        · cases hfits : StackSlot.fitFrame procedure.slots with
          | false =>
              rw [Action.leaves, define_of_unfit hprocedure h hdata hlinkage hfits]
              exact appends_push _ _ h
          | true =>
              rw [Action.leaves, define_of_free hprocedure h hdata hlinkage hfits]
              exact appends_push _ _ h
  names := by
    intro unit id h hid
    unfold Action.answer at hid
    unfold Action.leaves
    cases hrun : define name sig linkage body unit with
    | error stop after =>
        rw [hrun] at hid
        cases hid
    | ok found after =>
        rw [hrun] at hid
        cases hid
        rcases define_eq_ok h hlinkage hrun with ⟨procedure, _, rfl, hmodule⟩
        show after.module.lookup? name = some _
        rw [hmodule]
        exact Module.lookup?_push_self _ h
  respects := respects_define name sig linkage body

/-- Telling something first changes nothing in what is made. -/
theorem Makes.after_record {name : String} {make : Action CompilationUnit FuncId}
    (h : Makes name make) (event : Event) : Makes name (record event >>= fun _ => make) where
  appends := by
    intro unit hfree
    exact Appends.trans (Alike.appends ⟨_, rfl⟩)
      (h.appends { unit with log := unit.log ++ [event] } hfree)
  names := by
    intro unit id hfree hid
    exact h.names { unit with log := unit.log ++ [event] } id hfree hid
  respects := (respects_record event).bind fun _ => h.respects

end CompilationUnit
end Provision
