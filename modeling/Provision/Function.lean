/-!
# Functions and linkage

A function of a module is known by its number: functions are numbered in the order of their
declarations.  The linkage of a function tells how its name is shared with other modules.
-/

namespace Provision

structure FuncId where
  index : Nat
  deriving DecidableEq, Repr, Inhabited

namespace FuncId

/-- The number as messages and logs show it. -/
def text (id : FuncId) : String :=
  "funcid" ++ toString id.index

end FuncId

/-! ## Linkage -/

inductive Linkage where
  | imported
  | internal
  | preemptible
  | hidden
  | exported
  deriving DecidableEq, Repr, Inhabited

namespace Linkage

/-- Whether a function of this linkage may have code in the module. -/
def isDefinable : Linkage -> Bool
  | imported => false
  | _ => true

/-- Whether a function of this linkage is the module's own for good, so that its callers may expect
it near them. -/
def isFinal : Linkage -> Bool
  | imported => false
  | preemptible => false
  | _ => true

/-- Linkage of a function that is declared once more. -/
def merge : (old new : Linkage) -> Linkage
  | imported, new => new
  | internal, imported => internal
  | internal, new => new
  | preemptible, exported => exported
  | preemptible, _ => preemptible
  | hidden, exported => exported
  | hidden, preemptible => preemptible
  | hidden, _ => hidden
  | exported, _ => exported

/-- The name that a log shows. -/
def title : Linkage -> String
  | imported => "Import"
  | internal => "Local"
  | preemptible => "Preemptible"
  | hidden => "Hidden"
  | exported => "Export"

/-- The name in lower case. -/
def text : Linkage -> String
  | imported => "import"
  | internal => "local"
  | preemptible => "preemptible"
  | hidden => "hidden"
  | exported => "export"

/-- Reads the name in lower case. -/
def ofText? (text : String) : Option Linkage :=
  [imported, internal, preemptible, hidden, exported].find? fun linkage => linkage.text = text

/-! ## Laws of merging -/

/-- A function that may have code may still have it after every further declaration. -/
theorem isDefinable_merge {old : Linkage} (new : Linkage) (h : old.isDefinable = true) :
    (old.merge new).isDefinable = true := by
  cases old
  case imported => cases h
  all_goals
    cases new
    all_goals rfl

end Linkage
end Provision
