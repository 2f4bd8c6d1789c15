import Provision.Proofs.Code.Arithmetic
import Provision.Proofs.Code.Counting
import Provision.Proofs.Module.Portable
import Provision.Proofs.Provider.Synthesized

/-!
# Running the dot product

The procedure that the body of a dot product is compiled to, for each type of elements, and what it
does to memory.  It zeroes the result, adds up products from the memory that this has left, and
stores the sum.
-/

namespace Provision

/-- The arithmetic of the elements. -/
@[reducible]
def DotElement.arithmetic : DotElement -> Arithmetic
  | float => .float .double
  | int => .int .w32

namespace Dot

variable (element : DotElement)

/-! ## The procedure -/

def partialSum : Carried where
  value := 8
  type := element.arithmetic.type
  initial := 5
  next := 19

def terms : Counting where
  width := .w32
  index := 7
  test := 9
  origin := 6
  next := 20
  bound := 0
  locals := [partialSum element]

theorem carries_terms : (terms element).Carries (partialSum element) 6 where
  locals := rfl
  width := show Width.w32.bits ≤ 64 by decide
  bound := by simp [terms]
  initial := by simp [partialSum]
  origin := by simp [terms]
  index := by simp [terms]
  test := by simp [terms]
  value := by simp [partialSum]
  index_ne_test := by simp [terms]
  value_ne_index := by simp [terms, partialSum]
  value_ne_test := by simp [terms, partialSum]

def accumulate : List Instruction :=
  Block.addProduct element.arithmetic 10 1 7 2 7 8 ++ [.compute 20 (.addImmediate 7 1)]

/-- Zeroes the result. -/
def clear : List Instruction :=
  [.compute 5 element.arithmetic.constant, .store 5 3 0]

def conclude : List Instruction :=
  [.store 8 3 0]

def code : Code :=
  .prepend (clear element)
    (.step (.compute 6 (.constInt .i32 0))
      (.loop (terms element).header (.ofSteps (accumulate element)) (.ofSteps conclude)))

def procedure : Procedure where
  signature :=
    { params := [.i32, .i64, .i64, .i64]
      returns := [] }
  slots := []
  code := code element
  results := []
  near := []

theorem compiled_eq :
    (Routine.dot element.type).compiled? element.signature none = some (procedure element) := by
  cases element
  · decide +kernel
  · decide +kernel

/-- The body is accepted, and every unit compiles it to the same procedure. -/
theorem procedure_eq (unit : CompilationUnit) (name : String) :
    unit.procedure name element.signature (Routine.dot element.type) =
      .ok (procedure element) :=
  unit.procedure_of_compiled_alone name (compiled_eq element) rfl rfl

/-! ## Arguments -/

/-- The number of elements, the two vectors, and where their product goes. -/
structure Arguments where
  count : BitVec 32
  left : Memory.Address
  right : Memory.Address
  total : Memory.Address

namespace Arguments

variable (call : Arguments) (memory : Memory)

def toList : List Scalar :=
  [.int .w32 call.count, .address call.left, .address call.right, .address call.total]

def term (i : BitVec 32) : element.arithmetic.Number :=
  element.arithmetic.mul (element.arithmetic.element memory call.left i)
    (element.arithmetic.element memory call.right i)

/-- The terms are added up from zero on, each one behind the sum so far. -/
def sum : element.arithmetic.Number :=
  repeatBelow call.count (fun i sum => element.arithmetic.add sum (call.term element memory i))
    element.arithmetic.zero

def cleared : Memory :=
  memory.store call.total (element.arithmetic.scalar element.arithmetic.zero)

/-- The memory that the product leaves.  What is summed up is found after the result has been
zeroed. -/
def result : Memory :=
  (call.cleared element memory).store call.total
    (element.arithmetic.scalar (call.sum element (call.cleared element memory)))

/-! ## Effects -/

def accumulates (i : BitVec 32) : List Effect :=
  [ .load (Memory.elementAddress element.arithmetic.type call.left i)
      element.arithmetic.type.bytes,
    .load (Memory.elementAddress element.arithmetic.type call.right i)
      element.arithmetic.type.bytes ]

def stores : Effect :=
  .store call.total element.arithmetic.type.bytes

/-- What the product does: it zeroes the result, goes over the elements, and stores their sum. -/
def effects : List Effect :=
  call.stores element ::
    ((below call.count).flatMap (call.accumulates element) ++ [call.stores element])

end Arguments

/-! ## Running -/

/-- A frame holds the arguments. -/
structure Holds (call : Arguments) (frame : Frame) : Prop where
  count : frame.value? 0 = some (.int .w32 call.count)
  left : frame.value? 1 = some (.address call.left)
  right : frame.value? 2 = some (.address call.right)
  total : frame.value? 3 = some (.address call.total)

section Running

variable {σ : Type} (invoke : FuncId -> Behaviour σ) (world : World σ) {call : Arguments}
  {frame after : Frame} {i : BitVec 32}

theorem Holds.keeps (h : Holds call frame) {first : ValueId} (hkeeps : frame.Keeps first after)
    (hfirst : 4 ≤ first) : Holds call after := by
  have hstill : forall {value : ValueId} {x : Scalar}, frame.value? value = some x ->
      value < 4 -> after.value? value = some x :=
    fun hvalue hlt => hkeeps.value? hvalue (Nat.lt_of_lt_of_le hlt hfirst)
  exact
    { count := hstill h.count (by decide)
      left := hstill h.left (by decide)
      right := hstill h.right (by decide)
      total := hstill h.total (by decide) }

theorem leads_accumulate (h : Holds call frame) {s : element.arithmetic.Number}
    (hi : frame.value? 7 = some (.int .w32 i))
    (hs : frame.value? 8 = some (element.arithmetic.scalar s)) :
    exists after,
      Instruction.Leads invoke (accumulate element) 10 (frame, world) (after, world)
          (call.accumulates element i) ∧
        after.value? 20 = some (.int .w32 (i + 1)) ∧
          after.value? 19 =
            some (element.arithmetic.scalar
              (element.arithmetic.add s (call.term element world.memory i))) := by
  rcases Block.leads_addProduct invoke world element.arithmetic 10 h.left hi h.right hi hs
    (by decide) (by decide) (by decide) (by decide) with ⟨summed, hsummed, hsum⟩
  rcases Instruction.leads_increment invoke world 20 (hsummed.keeps.value? hi (by decide)) with
    ⟨after, hafter, hnext⟩
  exact ⟨after, hsummed.append (by decide) hafter, hnext, hafter.keeps.value? hsum (by decide)⟩

theorem leads_store (h : Holds call frame) (first : ValueId) {value : ValueId}
    {x : element.arithmetic.Number}
    (hvalue : frame.value? value = some (element.arithmetic.scalar x)) :
    Instruction.Leads invoke [.store value 3 0] first (frame, world)
      (frame, world.onMemory fun memory => memory.store call.total (element.arithmetic.scalar x))
      [call.stores element] := by
  rw [Arguments.stores, ← element.arithmetic.type_scalar x]
  exact Instruction.leads_store_here first hvalue h.total

theorem leads_clear (h : Holds call frame) :
    exists after,
      Instruction.Leads invoke (clear element) 5 (frame, world)
          (after, world.onMemory (call.cleared element)) [call.stores element] ∧
        after.value? 5 = some (element.arithmetic.scalar element.arithmetic.zero) := by
  let zeroed := frame.bind 5 (element.arithmetic.scalar element.arithmetic.zero)
  have hzeroed : Instruction.Leads invoke [.compute 5 element.arithmetic.constant] 5
      (frame, world) (zeroed, world) [] :=
    Instruction.leads_compute (element.arithmetic.eval_constant _)
  have hvalue : zeroed.value? 5 = some (element.arithmetic.scalar element.arithmetic.zero) := by
    simp [zeroed]
  have hstored := leads_store element invoke world (h.keeps hzeroed.keeps (by decide)) 5 hvalue
  exact ⟨zeroed, hzeroed.append (by decide) hstored, hvalue⟩

theorem ends_terms (h : Holds call frame)
    (hzero : frame.value? 5 = some (element.arithmetic.scalar element.arithmetic.zero)) :
    exists after,
      Region.Ends invoke
        (.step (.compute 6 (.constInt .i32 0))
          (.loop (terms element).header (.ofSteps (accumulate element)) (.ofSteps conclude)))
        (frame, world)
        (after, world.onMemory fun memory =>
          memory.store call.total (element.arithmetic.scalar (call.sum element world.memory)))
        ((below call.count).flatMap (call.accumulates element) ++ [call.stores element]) := by
  let enter := fun (x : BitVec 32) (s : element.arithmetic.Number) goesOn =>
    (terms element).enter (frame.bind 6 (.int .w32 0)) x [element.arithmetic.scalar s] goesOn
  have hkeeps : forall x s goesOn, frame.Keeps 6 (enter x s goesOn) :=
    fun x s goesOn => (carries_terms element).keeps_pass frame x _ goesOn
  have hsum : forall x s goesOn,
      (enter x s goesOn).value? 8 = some (element.arithmetic.scalar s) :=
    fun x s goesOn => (carries_terms element).value?_local _ x _ goesOn
  have hpass : forall (x : BitVec 32) (s : element.arithmetic.Number), exists after : Frame,
      Region.Ends invoke (.ofSteps (accumulate element)) (enter x s true, world) (after, world)
          (call.accumulates element x) ∧
        after.value? 20 = some (.int .w32 (x + 1)) ∧
          after.value? 19 =
            some (element.arithmetic.scalar
              (element.arithmetic.add s (call.term element world.memory x))) := by
    intro x s
    have hindex : (enter x s true).value? 7 = some (.int .w32 x) :=
      (terms element).value?_enter_index (carries_terms element).index_ne_test x _ true
    rcases leads_accumulate element invoke world (h.keeps (hkeeps x s true) (by decide)) hindex
      (hsum x s true) with ⟨after, hafter, hnext, hstate⟩
    exact ⟨after, hafter.ofSteps, hnext, hstate⟩
  let last := enter (BitVec.ofNat _ call.count.toInt.toNat) (call.sum element world.memory) false
  have hholds : Holds call last := h.keeps (hkeeps _ _ false) (by decide)
  have hstored := leads_store element invoke world hholds 20 (hsum _ _ false)
  exact ⟨last, (carries_terms element).ends_loop invoke world h.count element.arithmetic.scalar
    hzero (fun i s => element.arithmetic.add s (call.term element world.memory i))
    (call.accumulates element) hpass hstored.ofSteps⟩

/-- The procedure always comes to its end.  It returns nothing and changes nothing but memory. -/
theorem returns_procedure (call : Arguments) :
    (procedure element).Returns invoke call.toList world [] (world.onMemory (call.result element))
      (call.effects element) := by
  have hholds : Holds call (Frame.start call.toList []) :=
    { count := rfl
      left := rfl
      right := rfl
      total := rfl }
  rcases leads_clear element invoke world hholds with ⟨cleared, hcleared, hzero⟩
  rcases ends_terms element invoke (world.onMemory (call.cleared element))
    (hholds.keeps hcleared.keeps (by decide)) hzero with ⟨after, hafter⟩
  exact (procedure element).returns_of_slots_nil rfl (hcleared.prepend hafter) rfl

theorem returns_synthesized {program : Executable σ} {id : FuncId}
    (hmade : program.Synthesized id (Provider.dot element)) (call : Arguments) (depth : Nat) :
    program.Returns (depth + 1) id call.toList world [] (world.onMemory (call.result element))
      (call.effects element) :=
  (returns_procedure element (program.invoke depth) world call).ofProgram
    (hmade.procedure?_dot (procedure_eq element))

theorem invoke_synthesized {program : Executable σ} {id : FuncId}
    (hmade : program.Synthesized id (Provider.dot element)) (call : Arguments) (depth : Nat) :
    program.invoke (depth + 1) id call.toList world =
      some ([], world.onMemory (call.result element)) :=
  (returns_synthesized element world hmade call depth).runs

end Running
end Dot
end Provision
