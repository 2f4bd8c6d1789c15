import Provision.Proofs.Code.Frame

/-!
# Computing values

What operations compute from operands of the types that they take, and what single instructions
lead to.
-/

namespace Provision

/-! ## Operations -/

namespace Operation

variable {value? : ValueId -> Option Scalar} {a b : ValueId} {f : Binary.Format} {w : Width}

theorem eval_float (operator : FloatOperator) {x y : Binary.Pattern f}
    (ha : value? a = some (.float f x)) (hb : value? b = some (.float f y)) :
    (float operator a b).eval value? = some (.float f (operator.apply x y)) := by
  simp [eval, ha, hb, onFloats, Scalar.asFloat?_float]

theorem eval_ofSigned (f : Binary.Format) {x : BitVec w.bits} (ha : value? a = some (.int w x)) :
    (ofSigned (.float f) a).eval value? = some (.float f (.ofInt f x.toInt)) := by
  simp [eval, ha, toFloat]

theorem eval_ofUnsigned (f : Binary.Format) {x : BitVec w.bits}
    (ha : value? a = some (.int w x)) :
    (ofUnsigned (.float f) a).eval value? = some (.float f (.ofInt f x.toNat)) := by
  simp [eval, ha, toFloat]

theorem eval_toSigned (w : Width) {x : Binary.Pattern f} (ha : value? a = some (.float f x)) :
    (toSigned (.int w) a).eval value? =
      some (.int w (BitVec.ofInt w.bits (x.toInt w.bits))) := by
  simp only [eval, ha, Option.bind_eq_bind, Option.bind_some, toInt]

theorem eval_signExtend (w : Width) {v : Width} {x : BitVec v.bits}
    (ha : value? a = some (.int v x)) :
    (signExtend (.int w) a).eval value? = some (.int w (x.signExtend w.bits)) := by
  simp [eval, ha, resize]

theorem eval_zeroExtend (w : Width) {v : Width} {x : BitVec v.bits}
    (ha : value? a = some (.int v x)) :
    (zeroExtend (.int w) a).eval value? = some (.int w (x.setWidth w.bits)) := by
  simp [eval, ha, resize]

theorem eval_reduce (w : Width) {v : Width} {x : BitVec v.bits} (ha : value? a = some (.int v x)) :
    (reduce (.int w) a).eval value? = some (.int w (x.setWidth w.bits)) := by
  simp [eval, ha, resize]

end Operation

/-! ## Instructions -/

namespace Instruction

variable {σ : Type} {invoke : FuncId -> Behaviour σ} {frame : Frame} {world : World σ}

theorem leads_slotAddress {result : ValueId} {slot : SlotId} {a : Memory.Address}
    (h : frame.slots[slot]? = some a) :
    Leads invoke [.slotAddress result slot] result (frame, world)
      (frame.bind result (.address a), world) [] where
  runs := by simp [runAll, run, h]
  keeps := (Frame.Keeps.refl result frame).bind (Nat.le_refl result) _
  does := by simp [traceAll, effect?, run, h]

theorem leads_load {result address : ValueId} (type : MachineType) (offset : Int)
    {a : Memory.Address} (h : frame.value? address = some (.address a)) :
    Leads invoke [.load result type address offset] result (frame, world)
      (frame.bind result (world.memory.load type (a + BitVec.ofInt 64 offset)), world)
      [.load (a + BitVec.ofInt 64 offset) type.bytes] where
  runs := by simp [runAll, run, h, Scalar.asAddress?_address]
  keeps := (Frame.Keeps.refl result frame).bind (Nat.le_refl result) _
  does := by simp [traceAll, effect?, run, h, Scalar.asAddress?_address]

theorem leads_load_here {result address : ValueId} (type : MachineType) {a : Memory.Address}
    (h : frame.value? address = some (.address a)) :
    Leads invoke [.load result type address 0] result (frame, world)
      (frame.bind result (world.memory.load type a), world) [.load a type.bytes] := by
  have hloaded : Leads invoke [.load result type address 0] result (frame, world) _ _ :=
    leads_load type 0 h
  have hhere : a + BitVec.ofInt 64 0 = a := BitVec.add_zero a
  rw [hhere] at hloaded
  exact hloaded

theorem leads_store {value address : ValueId} (first : ValueId) (offset : Int)
    {a : Memory.Address} {x : Scalar} (hvalue : frame.value? value = some x)
    (haddress : frame.value? address = some (.address a)) :
    Leads invoke [.store value address offset] first (frame, world)
      (frame,
        { world with memory := world.memory.store (a + BitVec.ofInt 64 offset) x })
      [.store (a + BitVec.ofInt 64 offset) x.type.bytes] where
  runs := by simp [runAll, run, hvalue, haddress, Scalar.asAddress?_address]
  keeps := Frame.Keeps.refl first frame
  does := by simp [traceAll, effect?, run, hvalue, haddress, Scalar.asAddress?_address]

theorem leads_store_here {value address : ValueId} (first : ValueId) {a : Memory.Address}
    {x : Scalar} (hvalue : frame.value? value = some x)
    (haddress : frame.value? address = some (.address a)) :
    Leads invoke [.store value address 0] first (frame, world)
      (frame, { world with memory := world.memory.store a x }) [.store a x.type.bytes] := by
  have hstored : Leads invoke [.store value address 0] first (frame, world) _ _ :=
    leads_store first 0 hvalue haddress
  have hhere : a + BitVec.ofInt 64 0 = a := BitVec.add_zero a
  rw [hhere] at hstored
  exact hstored

/-- A call binds the results that there are. -/
theorem run_call {results arguments : List ValueId} {callee : FuncId} {values : List Scalar}
    (h : arguments.mapM frame.value? = some values) :
    (call results callee arguments).run invoke (frame, world) =
      match invoke callee values world with
      | none => none
      | some (returned, after) => some (frame.bindAll results returned, after) := by
  simp only [run, h, Option.bind_eq_bind, Option.bind_some]
  cases invoke callee values world with
  | none => rfl
  | some outcome => rfl

theorem leads_call {results arguments : List ValueId} {callee : FuncId} {first : ValueId}
    {values returned : List Scalar} {after : World σ}
    (hresults : forall result, result ∈ results -> first ≤ result)
    (hvalues : arguments.mapM frame.value? = some values)
    (hinvoke : invoke callee values world = some (returned, after)) :
    Leads invoke [.call results callee arguments] first (frame, world)
      (frame.bindAll results returned, after) [.call callee values] where
  runs := by simp [runAll, run_call hvalues, hinvoke]
  keeps := (Frame.Keeps.refl first frame).bindAll hresults returned
  does := by simp [traceAll, effect?, run_call hvalues, hvalues, hinvoke]

end Instruction
end Provision
