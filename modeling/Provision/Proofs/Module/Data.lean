import Provision.Proofs.Module.Lasting

/-!
# Names of data objects

Functions and data objects share one space of names.  A name that stands for a data object does so
for good: nothing that is done to a unit makes a function of that name.
-/

namespace Provision

/-! ## Modules -/

namespace Module

/-- Whether a name stands for a data object, and not for a function. -/
def isData (module : Module) (name : String) : Bool :=
  (module.lookup? name).isNone && module.data.contains name

theorem isData_iff {module : Module} {name : String} :
    module.isData name = true ↔ module.lookup? name = none ∧ name ∈ module.data := by
  simp [isData]

theorem isData_of_known {module : Module} {name : String} {id : FuncId}
    (h : module.lookup? name = some id) : module.isData name = false := by
  simp [isData, h]

/-- Names of data objects stay what they are. -/
def KeepsData (before after : Module) : Prop :=
  forall name, before.isData name = true -> after.isData name = true

theorem KeepsData.refl (module : Module) : KeepsData module module :=
  fun _ h => h

theorem KeepsData.trans {a b c : Module} (hab : KeepsData a b) (hbc : KeepsData b c) :
    KeepsData a c :=
  fun name h => hbc name (hab name h)

/-- What is a function in the end was no data object before. -/
theorem KeepsData.isData_of_known {before after : Module} (h : KeepsData before after)
    {name : String} {id : FuncId} (hlookup : after.lookup? name = some id) :
    before.isData name = false := by
  apply Bool.eq_false_iff.mpr
  intro hdata
  have hstill := h name hdata
  rw [Module.isData_of_known hlookup] at hstill
  cases hstill

theorem keepsData_push {module : Module} {declaration : Declaration}
    (h : declaration.name ∉ module.data) : KeepsData module (module.push declaration) := by
  intro name hname
  rw [isData_iff] at hname ⊢
  rcases hname with ⟨hfree, hdata⟩
  have hother : declaration.name ≠ name := by
    intro heq
    rw [heq] at h
    exact h hdata
  rw [lookup?_push_of_ne hother]
  exact ⟨hfree, hdata⟩

theorem keepsData_update (module : Module) (id : FuncId) {change : Declaration -> Declaration}
    (h : forall declaration, (change declaration).name = declaration.name) :
    KeepsData module (module.update id change) := by
  intro name hname
  rw [isData_iff] at hname ⊢
  rw [lookup?_update module id h]
  exact hname

theorem keepsData_declareData (module : Module) (name : String) :
    KeepsData module (module.declareData name) := by
  unfold declareData
  split
  · exact .refl module
  · intro other hother
    rw [isData_iff] at hother ⊢
    exact ⟨hother.left, List.mem_append_left _ hother.right⟩

theorem Step.keepsData {before after : Module} (h : Step before after) :
    KeepsData before after := by
  cases h with
  | append _ hdata => exact keepsData_push hdata
  | merge id linkage => exact keepsData_update before id fun _ => rfl
  | complete _ _ procedure => exact keepsData_update before _ fun _ => rfl
  | reserve name => exact keepsData_declareData before name

theorem Evolves.keepsData {before after : Module} (h : Evolves before after) :
    KeepsData before after := by
  induction h with
  | refl => exact .refl before
  | tail _ hstep ih => exact ih.trans hstep.keepsData

end Module

/-! ## Compilation units -/

namespace CompilationUnit

/-- Names of data objects stay what they are in the module of a unit. -/
def KeepsData (before after : CompilationUnit) : Prop :=
  before.module.KeepsData after.module

/-- Whatever is done to a unit, a name of a data object stays one. -/
theorem Passes.keepsData {first last : CompilationUnit} (h : Passes first last) :
    first.KeepsData last :=
  h.evolves.keepsData

end CompilationUnit
end Provision
