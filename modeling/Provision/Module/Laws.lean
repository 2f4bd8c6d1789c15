import Provision.Module.Basic

/-!
# Laws of modules

What pushing and updating a declaration do to names and numbers: a pushed function has the next
number, and a change that keeps the name of a function keeps what every name stands for.
-/

namespace Provision
namespace Module

/-! ## Pushing -/

theorem declaration?_push_self (module : Module) (declaration : Declaration) :
    (module.push declaration).declaration? { index := module.functions.length } =
      some declaration := by
  simp [declaration?, push]

theorem declaration?_push_of_lt (module : Module) (declaration : Declaration) {id : FuncId}
    (h : id.index < module.functions.length) :
    (module.push declaration).declaration? id = module.declaration? id := by
  unfold declaration? push
  exact List.getElem?_append_left h

theorem index_lt_of_lookup? {module : Module} {name : String} {id : FuncId}
    (h : module.lookup? name = some id) : id.index < module.functions.length := by
  unfold lookup? at h
  rw [Option.map_eq_some_iff] at h
  rcases h with ⟨index, hfound, hid⟩
  subst hid
  exact (List.findIdx?_eq_some_iff_findIdx_eq.mp hfound).left

theorem name_of_lookup? {module : Module} {name : String} {id : FuncId}
    (h : module.lookup? name = some id) :
    exists declaration : Declaration,
      module.declaration? id = some declaration ∧ declaration.name = name := by
  unfold lookup? at h
  rw [Option.map_eq_some_iff] at h
  rcases h with ⟨index, hfound, hid⟩
  subst hid
  rw [List.findIdx?_eq_some_iff_getElem] at hfound
  rcases hfound with ⟨hlt, hname, _⟩
  refine ⟨module.functions[index], ?_, ?_⟩
  · exact List.getElem?_eq_getElem hlt
  · exact of_decide_eq_true hname

theorem lookup?_push_of_isSome {module : Module} {name : String} {id : FuncId}
    (declaration : Declaration) (h : module.lookup? name = some id) :
    (module.push declaration).lookup? name = some id := by
  unfold lookup? push at *
  rw [Option.map_eq_some_iff] at *
  rcases h with ⟨index, hfound, hid⟩
  refine ⟨index, ?_, hid⟩
  rw [List.findIdx?_append, hfound]
  rfl

theorem lookup?_push_self {module : Module} (declaration : Declaration)
    (h : module.lookup? declaration.name = none) :
    (module.push declaration).lookup? declaration.name =
      some { index := module.functions.length } := by
  unfold lookup? push at *
  rw [Option.map_eq_none_iff] at h
  rw [List.findIdx?_append, h]
  simp

theorem lookup?_push_of_ne {module : Module} {declaration : Declaration} {name : String}
    (h : declaration.name ≠ name) :
    (module.push declaration).lookup? name = module.lookup? name := by
  unfold lookup? push
  rw [List.findIdx?_append]
  simp [h]

/-! ## Updating -/

theorem declaration?_update_self (module : Module) (id : FuncId)
    (change : Declaration -> Declaration) :
    (module.update id change).declaration? id = (module.declaration? id).map change := by
  simp [declaration?, update]

theorem declaration?_update_of_ne (module : Module) {id other : FuncId}
    (change : Declaration -> Declaration) (h : other ≠ id) :
    (module.update id change).declaration? other = module.declaration? other := by
  have hindex : id.index ≠ other.index := by
    intro heq
    apply h
    cases id
    cases other
    cases heq
    rfl
  simp [declaration?, update, hindex]

theorem names_modify {change : Declaration -> Declaration}
    (h : forall declaration, (change declaration).name = declaration.name)
    (functions : List Declaration) (index : Nat) :
    (functions.modify index change).map Declaration.name = functions.map Declaration.name := by
  induction functions generalizing index with
  | nil => simp
  | cons first rest ih =>
      cases index with
      | zero => simp [h]
      | succ index => simp [ih]

theorem lookup?_update (module : Module) (id : FuncId) {change : Declaration -> Declaration}
    (h : forall declaration, (change declaration).name = declaration.name) (name : String) :
    (module.update id change).lookup? name = module.lookup? name := by
  have hnames := names_modify h module.functions id.index
  have hfound := congrArg (List.findIdx? fun other : String => decide (other = name)) hnames
  rw [List.findIdx?_map, List.findIdx?_map] at hfound
  exact congrArg (Option.map FuncId.mk) hfound

end Module
end Provision
