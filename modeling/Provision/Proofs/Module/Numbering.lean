import Mathlib.Data.List.Nodup
import Mathlib.Logic.Equiv.Defs
import Provision.Proofs.Code.Renumber
import Provision.Proofs.Module.Declaring

/-!
# Modules up to numbering

Two modules are the same up to the numbers of their functions if the functions correspond one to
one, each with its counterpart's name, linkage, signature and, but for the numbers in calls, code.
Modules whose functions have the same names correspond by the names.
-/

namespace Provision

def Declaration.renumber (number : FuncId -> FuncId) (declaration : Declaration) : Declaration :=
  { declaration with code := declaration.code.map (Procedure.renumber number) }

namespace Module

/-- The second of two modules is the first one with the functions under other numbers. -/
structure Renumbered (number : FuncId ≃ FuncId) (first second : Module) : Prop where
  data : second.data = first.data
  declaration : forall id, second.declaration? (number id) =
    (first.declaration? id).map (Declaration.renumber number)

/-! ## Numbers and names -/

variable {module first second : Module} {id : FuncId} {declaration : Declaration} {name : String}

theorem exists_lookup? (h : name ∈ module.names) : exists id, module.lookup? name = some id := by
  cases hlookup : module.lookup? name with
  | some id => exact ⟨id, rfl⟩
  | none => exact absurd h (lookup?_eq_none_iff.mp hlookup)

theorem getElem?_names (module : Module) (id : FuncId) :
    module.names[id.index]? = (module.declaration? id).map Declaration.name := by
  rw [names, List.getElem?_map]
  rfl

theorem name_mem_names (h : module.declaration? id = some declaration) :
    declaration.name ∈ module.names :=
  List.mem_map_of_mem (List.mem_of_getElem? h)

theorem lookup?_name (hnodup : module.names.Nodup) (h : module.declaration? id = some declaration) :
    module.lookup? declaration.name = some id := by
  rcases exists_lookup? (name_mem_names h) with ⟨found, hfound⟩
  rcases name_of_lookup? hfound with ⟨other, hother, hname⟩
  have hlt : found.index < module.names.length := by
    rw [names, List.length_map]
    exact index_lt_of_lookup? hfound
  have hget : module.names[found.index]? = module.names[id.index]? := by
    rw [getElem?_names, getElem?_names, h, hother, Option.map_some, Option.map_some, hname]
  have hindex := (List.getElem?_inj hlt hnodup).mp hget
  rw [hfound]
  cases found
  cases id
  exact congrArg (fun index => some (FuncId.mk index)) hindex

/-! ## Correspondence by names -/

/-- The number of a function in another module, in which it goes by the same name. -/
def counterpart (first second : Module) (id : FuncId) : FuncId :=
  match first.declaration? id with
  | some declaration => (second.lookup? declaration.name).getD id
  | none => id

theorem counterpart_of_lookup? {other : FuncId} (hfirst : first.lookup? name = some id)
    (hsecond : second.lookup? name = some other) : first.counterpart second id = other := by
  rcases name_of_lookup? hfirst with ⟨declaration, hdeclaration, hname⟩
  simp only [counterpart, hdeclaration, hname, hsecond, Option.getD_some]

theorem declaration?_eq_none_iff :
    module.declaration? id = none ↔ module.names.length <= id.index := by
  rw [declaration?, List.getElem?_eq_none_iff, names, List.length_map]

variable (hfirst : first.names.Nodup) (hsecond : second.names.Nodup)
  (hsame : forall name, name ∈ first.names ↔ name ∈ second.names)

include hfirst hsecond hsame

theorem length_names_eq : first.names.length = second.names.length :=
  ((List.perm_ext_iff_of_nodup hfirst hsecond).mpr hsame).length_eq

theorem counterpart_counterpart (id : FuncId) :
    second.counterpart first (first.counterpart second id) = id := by
  cases hdeclaration : first.declaration? id with
  | none =>
      -- Both modules use as many numbers; one that is not used stands for itself.
      have hnone : second.declaration? id = none := by
        rw [declaration?_eq_none_iff] at hdeclaration ⊢
        rw [← length_names_eq hfirst hsecond hsame]
        exact hdeclaration
      simp only [counterpart, hdeclaration, hnone]
  | some declaration =>
      have hlookup := lookup?_name hfirst hdeclaration
      rcases exists_lookup? ((hsame _).mp (name_mem_names hdeclaration)) with ⟨other, hother⟩
      rw [counterpart_of_lookup? hlookup hother]
      exact counterpart_of_lookup? hother hlookup

/-- Functions of the same name correspond one to one. -/
def correspondence : FuncId ≃ FuncId where
  toFun := first.counterpart second
  invFun := second.counterpart first
  left_inv := counterpart_counterpart hfirst hsecond hsame
  right_inv := counterpart_counterpart hsecond hfirst fun name => (hsame name).symm

end Module
end Provision
