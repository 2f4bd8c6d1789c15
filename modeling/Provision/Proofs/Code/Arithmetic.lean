import Provision.Proofs.Code.Computing
import Provision.Proofs.Memory.Numbers

/-!
# Arithmetic of a machine type

Numbers of one machine type with what is computed of them, and the operations that compute it.  Sums
of products are emitted alike for every such type.
-/

namespace Provision

/-- Numbers in values and in memory, with their zero, products and sums. -/
structure Arithmetic where
  type : MachineType
  Number : Type
  zero : Number
  mul : Number -> Number -> Number
  add : Number -> Number -> Number
  scalar : Number -> Scalar
  stored : Memory -> Memory.Address -> Number
  constant : Operation
  product : ValueId -> ValueId -> Operation
  sum : ValueId -> ValueId -> Operation
  type_scalar : forall x : Number, (scalar x).type = type
  load_eq : forall (memory : Memory) (a : Memory.Address),
    memory.load type a = scalar (stored memory a)
  eval_constant : forall value?, constant.eval value? = some (scalar zero)
  eval_product : forall (value? : ValueId -> Option Scalar) (a b : ValueId) (x y : Number),
    value? a = some (scalar x) -> value? b = some (scalar y) ->
      (product a b).eval value? = some (scalar (mul x y))
  eval_sum : forall (value? : ValueId -> Option Scalar) (a b : ValueId) (x y : Number),
    value? a = some (scalar x) -> value? b = some (scalar y) ->
      (sum a b).eval value? = some (scalar (add x y))

namespace Arithmetic

/-- Floating-point numbers of a format; products and sums are rounded on their own. -/
@[reducible]
def float (f : Binary.Format) : Arithmetic where
  type := .float f
  Number := Binary.Pattern f
  zero := .zero f
  mul := .mul
  add := .add
  scalar := .float f
  stored := Memory.float f
  constant := .constFloat f 0
  product := .float .mul
  sum := .float .add
  type_scalar := fun _ => rfl
  load_eq := fun _ _ => rfl
  eval_constant := fun _ => rfl
  eval_product := fun _ _ _ _ _ ha hb => Operation.eval_float .mul ha hb
  eval_sum := fun _ _ _ _ _ ha hb => Operation.eval_float .add ha hb

/-- Integers of a width; products and sums wrap. -/
@[reducible]
def int (w : Width) : Arithmetic where
  type := .int w
  Number := BitVec w.bits
  zero := 0
  mul := (· * ·)
  add := (· + ·)
  scalar := .int w
  stored := Memory.integer w
  constant := .constInt (.int w) 0
  product := .int .mul
  sum := .int .add
  type_scalar := fun _ => rfl
  load_eq := fun _ _ => rfl
  eval_constant := fun _ => by simp [Operation.eval]
  eval_product := by
    intro value? a b x y ha hb
    simp [Operation.eval, ha, hb, Operation.onInts, Scalar.asInt?_int, IntOperator.apply]
  eval_sum := by
    intro value? a b x y ha hb
    simp [Operation.eval, ha, hb, Operation.onInts, Scalar.asInt?_int, IntOperator.apply]

/-- The element that an index of 32 bits picks. -/
def element (arithmetic : Arithmetic) (memory : Memory) (base : Memory.Address)
    (index : BitVec 32) : arithmetic.Number :=
  arithmetic.stored memory (Memory.elementAddress arithmetic.type base index)

end Arithmetic

/-! ## Products added up -/

namespace Block

/-- Adds the product of two elements to a sum. -/
def addProduct (arithmetic : Arithmetic) (first left leftIndex right rightIndex sum : ValueId) :
    List Instruction :=
  fetch arithmetic.type first left leftIndex ++
    (fetch arithmetic.type (first + 4) right rightIndex ++
      [ .compute (first + 8) (arithmetic.product (first + 3) (first + 7)),
        .compute (first + 9) (arithmetic.sum sum (first + 8)) ])

variable {σ : Type} (invoke : FuncId -> Behaviour σ) (world : World σ) {frame : Frame}

theorem leads_addProduct (arithmetic : Arithmetic) (first : ValueId)
    {left leftIndex right rightIndex sum : ValueId} {a b : Memory.Address} {x y : BitVec 32}
    {s : arithmetic.Number} (hleft : frame.value? left = some (.address a))
    (hleftIndex : frame.value? leftIndex = some (.int .w32 x))
    (hright : frame.value? right = some (.address b))
    (hrightIndex : frame.value? rightIndex = some (.int .w32 y))
    (hsum : frame.value? sum = some (arithmetic.scalar s)) (hleftLt : left < first)
    (hrightLt : right < first) (hindexLt : rightIndex < first) (hsumLt : sum < first) :
    exists after,
      Instruction.Leads invoke
          (addProduct arithmetic first left leftIndex right rightIndex sum) first (frame, world)
          (after, world)
          [ .load (Memory.elementAddress arithmetic.type a x) arithmetic.type.bytes,
            .load (Memory.elementAddress arithmetic.type b y) arithmetic.type.bytes ] ∧
        after.value? (first + 9) =
          some (arithmetic.scalar
            (arithmetic.add s
              (arithmetic.mul (arithmetic.element world.memory a x)
                (arithmetic.element world.memory b y)))) := by
  have hlater : forall value, value < first -> value < first + 4 :=
    fun value h => Nat.lt_of_lt_of_le h (Nat.le_add_right first 4)
  rcases leads_fetch invoke world arithmetic.type first hleft hleftIndex hleftLt with
    ⟨one, hone, helementLeft⟩
  rw [arithmetic.load_eq] at helementLeft
  rcases leads_fetch invoke world arithmetic.type (first + 4) (hone.keeps.value? hright hrightLt)
    (hone.keeps.value? hrightIndex hindexLt) (hlater right hrightLt) with
    ⟨both, hboth, helementRight⟩
  rw [arithmetic.load_eq] at helementRight
  have hkeeps := hone.keeps.trans (Nat.le_add_right first 4) hboth.keeps
  let product := arithmetic.mul (arithmetic.element world.memory a x)
    (arithmetic.element world.memory b y)
  have hproduct : (arithmetic.product (first + 3) (first + 7)).eval both.value? =
      some (arithmetic.scalar product) :=
    arithmetic.eval_product _ _ _ _ _
      (hboth.keeps.value? helementLeft (Nat.lt_succ_self (first + 3))) helementRight
  have hmultiplied : Instruction.Leads invoke
      [.compute (first + 8) (arithmetic.product (first + 3) (first + 7))] (first + 8)
      (both, world) (both.bind (first + 8) (arithmetic.scalar product), world) [] :=
    Instruction.leads_compute hproduct
  have hsumStill := (hkeeps.trans (Nat.le_add_right first 8) hmultiplied.keeps).value? hsum hsumLt
  have hadded : (arithmetic.sum sum (first + 8)).eval
      (both.bind (first + 8) (arithmetic.scalar product)).value? =
        some (arithmetic.scalar (arithmetic.add s product)) :=
    arithmetic.eval_sum _ _ _ _ _ hsumStill (by simp)
  refine ⟨_, hone.append (Nat.le_add_right first 4) (hboth.append (Nat.le_add_right (first + 4) 4)
    (hmultiplied.append (Nat.le_succ (first + 8)) (Instruction.leads_compute hadded))), ?_⟩
  simp [product]

end Block
end Provision
