import Provision.Association
import Provision.Fault

/-!
# Symbols and registries

A function is provided under a symbol: a name that every module shares, or an operation behind the
name of a module.  A registry remembers the functions provided so far.
-/

namespace Provision

structure Symbol where
  name : String
  deriving DecidableEq, Repr, Inhabited

namespace Symbol

/-- A name that every module shares. -/
def shared (name : String) : Symbol where
  name := name

/-- An operation of the module with the given name. -/
def ofModule (module operation : String) : Symbol where
  name := module ++ "_" ++ operation

/-! ## Sorted lists -/

/-- Puts a symbol into an increasing list, unless it is there. -/
def insertSorted (symbol : Symbol) : List Symbol -> List Symbol
  | [] => [symbol]
  | head :: rest =>
      if symbol.name < head.name then symbol :: head :: rest
      else if symbol = head then head :: rest
      else head :: insertSorted symbol rest

/-- Each of the symbols once, in increasing order of code points. -/
def sortedUnique (symbols : List Symbol) : List Symbol :=
  symbols.foldr insertSorted []

end Symbol

/-! ## Registries -/

structure Registry where
  entries : List (Symbol × FuncId)
  deriving DecidableEq, Repr, Inhabited

namespace Registry

def empty : Registry where
  entries := []

def find? (registry : Registry) (symbol : Symbol) : Option FuncId :=
  registry.entries.lookup symbol

/-- Records the function of a symbol, in place of the one recorded before. -/
def insert (registry : Registry) (symbol : Symbol) (id : FuncId) : Registry where
  entries := (symbol, id) :: Association.erase symbol registry.entries

def size (registry : Registry) : Nat :=
  registry.entries.length

/-- Records the function of a symbol.  To record another one than before is misuse. -/
def register (symbol : Symbol) (id : FuncId) : Action Registry Unit := do
  let registry ← get
  match registry.find? symbol with
  | none => set (registry.insert symbol id)
  | some old => if old = id then pure () else Action.misuse (.symbolTaken symbol.name)

/-! ## Laws -/

theorem find?_insert_self (registry : Registry) (symbol : Symbol) (id : FuncId) :
    (registry.insert symbol id).find? symbol = some id := by
  simp [insert, find?]

theorem find?_insert_of_ne (registry : Registry) {symbol other : Symbol} (id : FuncId)
    (h : other ≠ symbol) : (registry.insert symbol id).find? other = registry.find? other := by
  unfold find? insert
  rw [Association.lookup_cons_of_ne id _ h]
  exact Association.lookup_erase_of_ne registry.entries h

theorem register_of_find?_eq_none {registry : Registry} {symbol : Symbol} (id : FuncId)
    (h : registry.find? symbol = none) :
    register symbol id registry = .ok () (registry.insert symbol id) := by
  simp only [register, Action.run_bind, Action.run_get, h]
  rfl

end Registry
end Provision
