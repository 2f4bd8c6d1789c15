import Provision.Code.Instruction

/-!
# Pruning

Code is emitted as if every loop carried every local variable.  Pruning leaves the values that are
wanted: a carried value that nothing reads is dropped, and one that no pass changes is replaced by
its initial value.

What is wanted and what changes is found out in the order of emission: a loop is looked at when its
emission ends, inner loops before outer ones.
-/

namespace Provision

/-- What happens to carried values while code is emitted. -/
inductive Usage where
  | read (value : ValueId)
  | close (parameters : List ValueId)
  deriving DecidableEq, Repr

/-- What is known of the values: which are wanted, in order, which belong to loops whose emission
has ended, and which carried values stand for an older value. -/
structure Demand where
  wanted : List ValueId
  closed : List ValueId
  aliases : List (ValueId × ValueId)
  deriving DecidableEq, Repr

namespace Demand

def empty : Demand where
  wanted := []
  closed := []
  aliases := []

/-- The value that a value stands for.  An alias found later may be one of what an earlier alias
stands for. -/
def resolve (demand : Demand) (value : ValueId) : ValueId :=
  demand.aliases.foldl (fun value entry => if value = entry.1 then entry.2 else value) value

/-- Whether a value is wanted and stands for itself. -/
def keeps (demand : Demand) (value : ValueId) : Bool :=
  demand.wanted.contains value && (demand.aliases.lookup value).isNone

/-! ## Finding out -/

/-- Decides about a carried value: if no pass changes it, it stands for its initial value. -/
def settle (carried : Carried) (demand : Demand) : Demand :=
  let initial := demand.resolve carried.initial
  let next := demand.resolve carried.next
  if next = carried.value ∨ next = initial then
    { demand with aliases := demand.aliases ++ [(carried.value, initial)] }
  else demand

/-- Wants a value.  If it is carried by a loop whose emission has ended, then what it starts from
and what it becomes are wanted as well. -/
def want (table : List Carried) : (depth : Nat) -> ValueId -> Demand -> Demand
  | 0, _, demand => demand
  | depth + 1, value, demand =>
      if demand.wanted.contains value then demand
      else
        let demand := { demand with wanted := demand.wanted ++ [value] }
        match table.find? fun carried => carried.value = value with
        | none => demand
        | some carried =>
            if demand.closed.contains value then
              settle carried
                (want table depth carried.next (want table depth carried.initial demand))
            else demand

/-- Wanting goes on from one carried value to another, so that it ends before it is this deep. -/
def depth (table : List Carried) : Nat :=
  table.length + 2

/-- Decides about a carried value whose loop has just been closed. -/
def conclude (table : List Carried) (demand : Demand) (carried : Carried) : Demand :=
  let demand := want table (depth table) carried.initial demand
  let demand := want table (depth table) carried.next demand
  settle carried demand

/-- Takes notice of a use.  When a loop is closed, the values wanted of it are decided about in the
order in which they came to be wanted. -/
def follow (table : List Carried) (demand : Demand) : Usage -> Demand
  | .read value => want table (depth table) value demand
  | .close parameters =>
      let pending := demand.wanted.filter fun value => parameters.contains value
      let demand := { demand with closed := parameters ++ demand.closed }
      (pending.filterMap fun value => table.find? fun carried => carried.value = value).foldl
        (conclude table) demand

/-- What is wanted after all uses. -/
def ofUses (table : List Carried) (uses : List Usage) : Demand :=
  uses.foldl (follow table) empty

end Demand

/-! ## Leaving what is wanted -/

namespace Carried

def rename (f : ValueId -> ValueId) (carried : Carried) : Carried :=
  { carried with initial := f carried.initial, next := f carried.next }

end Carried

namespace LoopHeader

def prune (demand : Demand) (header : LoopHeader) : LoopHeader where
  carried :=
    (header.carried.filter fun carried => demand.keeps carried.value).map
      (Carried.rename demand.resolve)
  instructions := header.instructions.map (Instruction.rename demand.resolve)
  test := demand.resolve header.test

end LoopHeader

namespace Region

/-- Code whose loops carry what is kept, with every value replaced by what it stands for. -/
def prune (demand : Demand) : Code -> Code
  | done => done
  | step first rest => step (first.rename demand.resolve) (prune demand rest)
  | loop head body rest => loop (head.prune demand) (prune demand body) (prune demand rest)

theorem prune_prepend (demand : Demand) (steps : List Instruction) (rest : Code) :
    prune demand (prepend steps rest) =
      prepend (steps.map (Instruction.rename demand.resolve)) (prune demand rest) := by
  induction steps with
  | nil => rfl
  | cons first steps ih =>
      rw [prepend_cons, prune, ih]
      rfl

theorem prune_append (demand : Demand) (first second : Code) :
    prune demand (first.append second) = (prune demand first).append (prune demand second) := by
  induction first with
  | done => rfl
  | step instruction rest ih => simp only [append, prune, ih]
  | loop head body rest _ ih => simp only [append, prune, ih]

end Region
end Provision
