/-!
# Regions

A region is a straight line of steps and loops.  Scripts and emitted code are both regions: they
differ in what a step is and in what opens a loop.
-/

namespace Provision

inductive Region (α β : Type) where
  | done
  | step (first : α) (rest : Region α β)
  | loop (head : β) (body rest : Region α β)
  deriving Repr, DecidableEq

namespace Region

variable {α β : Type}

def prepend (steps : List α) (rest : Region α β) : Region α β :=
  steps.foldr step rest

def ofSteps (steps : List α) : Region α β :=
  prepend steps done

def append : Region α β -> Region α β -> Region α β
  | done, next => next
  | step first rest, next => step first (rest.append next)
  | loop head body rest, next => loop head body (rest.append next)

/-! ## Equations -/

theorem prepend_nil (rest : Region α β) : prepend [] rest = rest := rfl

theorem prepend_cons (first : α) (steps : List α) (rest : Region α β) :
    prepend (first :: steps) rest = step first (prepend steps rest) := rfl

theorem prepend_append (xs ys : List α) (rest : Region α β) :
    prepend (xs ++ ys) rest = prepend xs (prepend ys rest) := by
  simp [prepend]

end Region
end Provision
