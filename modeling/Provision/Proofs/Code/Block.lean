import Provision.Proofs.Code.Frame

/-!
# Emitted blocks

The instructions that index arithmetic and accesses to elements are emitted to, and what they lead
to.  An index has 32 bits; its arithmetic wraps, and it is taken as a signed number for an address.
-/

namespace Provision

/-! ## Addresses of elements -/

namespace Memory

/-- Address of an element, given the address of the first one and a signed index. -/
def elementAddress (type : MachineType) (base : Address) (index : BitVec 32) : Address :=
  base + index.signExtend 64 * BitVec.ofNat 64 type.bytes

end Memory

/-! ## Blocks -/

namespace Block

/-- Multiplies two values and adds a third one. -/
def multiplyAdd (first a b c : ValueId) : List Instruction :=
  [.compute first (.int .mul a b), .compute (first + 1) (.int .add first c)]

/-- One of two indices: that with row and column exchanged if the flag is not zero. -/
def matrixOffset (first flag row stride column : ValueId) : List Instruction :=
  multiplyAdd first column stride row ++
    (multiplyAdd (first + 2) row stride column ++
      [.compute (first + 4) (.select flag (first + 1) (first + 3))])

def address (type : MachineType) (first base index : ValueId) : List Instruction :=
  [ .compute first (.signExtend .i64 index),
    .compute (first + 1) (.mulImmediate first (BitVec.ofNat 64 type.bytes)),
    .compute (first + 2) (.int .add base (first + 1)) ]

def fetch (type : MachineType) (first base index : ValueId) : List Instruction :=
  address type first base index ++ [.load (first + 3) type (first + 2) 0]

def put (type : MachineType) (first base index value : ValueId) : List Instruction :=
  address type first base index ++ [.store value (first + 2) 0]

/-! ## What blocks lead to -/

variable {σ : Type} (invoke : FuncId -> Behaviour σ) (world : World σ) {frame : Frame}

theorem leads_multiplyAdd (first : ValueId) {a b c : ValueId} {x y z : BitVec 32}
    (ha : frame.value? a = some (.int .w32 x)) (hb : frame.value? b = some (.int .w32 y))
    (hc : frame.value? c = some (.int .w32 z)) (hlt : c < first) :
    exists after, Instruction.Leads invoke (multiplyAdd first a b c) first (frame, world)
        (after, world) [] ∧
      after.value? (first + 1) = some (.int .w32 (x * y + z)) := by
  have hne : c ≠ first := Nat.ne_of_lt hlt
  have hproduct : (Operation.int .mul a b).eval frame.value? = some (.int .w32 (x * y)) := by
    simp [Operation.eval, ha, hb, Operation.onInts, Scalar.asInt?_int, IntOperator.apply]
  have hsum : (Operation.int .add first c).eval (frame.bind first (.int .w32 (x * y))).value? =
      some (.int .w32 (x * y + z)) := by
    simp [Operation.eval, hc, hne, Operation.onInts, Scalar.asInt?_int, IntOperator.apply]
  refine ⟨_, (Instruction.leads_compute hproduct).append (Nat.le_succ first)
    (Instruction.leads_compute hsum), ?_⟩
  simp

theorem leads_matrixOffset (first : ValueId) {flag row stride column : ValueId} {exchanged : Bool}
    {i s j : BitVec 32} (hflag : frame.value? flag = some (.truth exchanged))
    (hrow : frame.value? row = some (.int .w32 i))
    (hstride : frame.value? stride = some (.int .w32 s))
    (hcolumn : frame.value? column = some (.int .w32 j)) (hflagLt : flag < first)
    (hrowLt : row < first) (hstrideLt : stride < first) (hcolumnLt : column < first) :
    exists after, Instruction.Leads invoke (matrixOffset first flag row stride column) first
        (frame, world) (after, world) [] ∧
      after.value? (first + 4) =
        some (.int .w32 (if exchanged then j * s + i else i * s + j)) := by
  rcases leads_multiplyAdd invoke world first hcolumn hstride hrow hrowLt with
    ⟨turned, hturned, hturnedValue⟩
  have hlater : forall value, value < first -> value < first + 2 :=
    fun value h => Nat.lt_of_lt_of_le h (Nat.le_add_right first 2)
  rcases leads_multiplyAdd invoke world (first + 2)
      (hturned.keeps.value? hrow hrowLt) (hturned.keeps.value? hstride hstrideLt)
      (hturned.keeps.value? hcolumn hcolumnLt) (hlater column hcolumnLt) with
    ⟨both, hboth, hbothValue⟩
  have hkeeps := hturned.keeps.trans (Nat.le_add_right first 2) hboth.keeps
  have hturnedStill := hboth.keeps.value? hturnedValue (Nat.lt_succ_self (first + 1))
  have hselect : (Operation.select flag (first + 1) (first + 3)).eval both.value? =
      some (.int .w32 (if exchanged then j * s + i else i * s + j)) := by
    simp only [Operation.eval, hkeeps.value? hflag hflagLt, Scalar.truth, hturnedStill, hbothValue,
      Option.bind_eq_bind, Option.bind_some]
    cases exchanged
    · rfl
    · rfl
  refine ⟨_, hturned.append (Nat.le_add_right first 2)
    (hboth.append (Nat.le_add_right (first + 2) 2) (Instruction.leads_compute hselect)), ?_⟩
  simp

theorem leads_address (type : MachineType) (first : ValueId) {base index : ValueId}
    {a : Memory.Address} {x : BitVec 32} (hbase : frame.value? base = some (.address a))
    (hindex : frame.value? index = some (.int .w32 x)) (hlt : base < first) :
    exists after, Instruction.Leads invoke (address type first base index) first (frame, world)
        (after, world) [] ∧
      after.value? (first + 2) = some (.address (Memory.elementAddress type a x)) := by
  have hneFirst : base ≠ first := Nat.ne_of_lt hlt
  have hneSecond : base ≠ first + 1 := Nat.ne_of_lt (Nat.lt_succ_of_lt hlt)
  let wide := x.signExtend 64
  let offset := wide * BitVec.ofNat 64 type.bytes
  have hwide : (Operation.signExtend .i64 index).eval frame.value? = some (.address wide) := by
    simp only [Operation.eval, hindex, Option.bind_eq_bind, Option.bind_some]
    rfl
  have hoffset : (Operation.mulImmediate first (BitVec.ofNat 64 type.bytes)).eval
      (frame.bind first (.address wide)).value? = some (.address offset) := by
    simp [Operation.eval, Scalar.address, offset]
  have hsum : (Operation.int .add base (first + 1)).eval
      ((frame.bind first (.address wide)).bind (first + 1) (.address offset)).value? =
        some (.address (a + offset)) := by
    simp [Operation.eval, hbase, hneFirst, hneSecond, Scalar.address, Operation.onInts,
      Scalar.asInt?_int, IntOperator.apply]
  refine ⟨_, (Instruction.leads_compute hwide).append (Nat.le_succ first)
    ((Instruction.leads_compute hoffset).append (Nat.le_succ (first + 1))
      (Instruction.leads_compute hsum)), ?_⟩
  simp [Memory.elementAddress, offset, wide]

theorem leads_fetch (type : MachineType) (first : ValueId) {base index : ValueId}
    {a : Memory.Address} {x : BitVec 32} (hbase : frame.value? base = some (.address a))
    (hindex : frame.value? index = some (.int .w32 x)) (hlt : base < first) :
    exists after, Instruction.Leads invoke (fetch type first base index) first (frame, world)
        (after, world) [.load (Memory.elementAddress type a x) type.bytes] ∧
      after.value? (first + 3) =
        some (world.memory.load type (Memory.elementAddress type a x)) := by
  rcases leads_address invoke world type first hbase hindex hlt with
    ⟨there, hthere, hplace⟩
  have hload : Instruction.Leads invoke [.load (first + 3) type (first + 2) 0] (first + 3)
      (there, world)
      (there.bind (first + 3) (world.memory.load type (Memory.elementAddress type a x)), world)
      [.load (Memory.elementAddress type a x) type.bytes] := by
    constructor
    · simp [Instruction.runAll, Instruction.run, hplace, Scalar.asAddress?_address]
    · exact (Frame.Keeps.refl _ there).bind (Nat.le_refl _) _
    · simp [Instruction.traceAll, Instruction.effect?, Instruction.run, hplace,
        Scalar.asAddress?_address]
  refine ⟨_, hthere.append (Nat.le_add_right first 3) hload, ?_⟩
  simp

theorem leads_put (type : MachineType) (first : ValueId) {base index value : ValueId}
    {a : Memory.Address} {x : BitVec 32} {v : Scalar}
    (hbase : frame.value? base = some (.address a))
    (hindex : frame.value? index = some (.int .w32 x)) (hvalue : frame.value? value = some v)
    (hlt : base < first) (hvalueLt : value < first) :
    exists after, Instruction.Leads invoke (put type first base index value) first (frame, world)
      (after,
        { world with
          memory := world.memory.store (Memory.elementAddress type a x) v })
      [.store (Memory.elementAddress type a x) v.type.bytes] := by
  rcases leads_address invoke world type first hbase hindex hlt with
    ⟨there, hthere, hplace⟩
  have hstill := hthere.keeps.value? hvalue hvalueLt
  refine ⟨there, hthere.append (Nat.le_refl first) ?_⟩
  constructor
  · simp [Instruction.runAll, Instruction.run, hplace, hstill, Scalar.asAddress?_address]
  · exact Frame.Keeps.refl first there
  · simp [Instruction.traceAll, Instruction.effect?, Instruction.run, hplace, hstill,
      Scalar.asAddress?_address]

end Block
end Provision
