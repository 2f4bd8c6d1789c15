import Provision.Code.Run

/-!
# Calling convention

A caller knows a host function by the signature under which it was declared, which need not be the
function's own.  Integers and floats travel apart, each kind in order, and whoever reads a value
reads as many of its low bits as it wants.
-/

namespace Provision
namespace Convention

/-! ## Reading values -/

/-- Takes the first value of the kind that a type is, as a value of the type, and leaves the
others. -/
def take (type : MachineType) : List Scalar -> Option (Scalar × List Scalar)
  | [] => none
  | first :: rest =>
      match first.recast? type with
      | some value => some (value, rest)
      | none => (take type rest).map fun (value, others) => (value, first :: others)

/-- Reads what was passed as values of the given types. -/
def read : List MachineType -> List Scalar -> Option (List Scalar)
  | [], _ => some []
  | type :: types, values => do
      let (value, others) ← take type values
      let rest ← read types others
      some (value :: rest)

theorem take_type (value : Scalar) (rest : List Scalar) :
    take value.type (value :: rest) = some (value, rest) := by
  simp only [take, Scalar.recast?_type]

/-- Whoever reads values of the types that were passed reads what was passed. -/
theorem read_types (values : List Scalar) : read (values.map Scalar.type) values = some values := by
  induction values with
  | nil => rfl
  | cons value rest ih =>
      simp only [List.map_cons, read, take_type]
      simp [ih]

/-! ## Calls -/

variable {σ : Type}

/-- A function that reads its parameters from any arguments. -/
def accepting (params : List MachineType) (function : Behaviour σ) : Behaviour σ :=
  fun arguments world => do
    let arguments ← read params arguments
    function arguments world

/-- A function whose results its caller reads. -/
def returning (returns : List MachineType) (function : Behaviour σ) : Behaviour σ :=
  fun arguments world => do
    let (results, world) ← function arguments world
    let results ← read returns results
    some (results, world)

/-- A caller that expects the types of the results gets them all. -/
theorem returning_types {function : Behaviour σ} {arguments results : List Scalar}
    {world after : World σ} (h : function arguments world = some (results, after)) :
    returning (results.map Scalar.type) function arguments world = some (results, after) := by
  simp [returning, h, read_types]

end Convention
end Provision
