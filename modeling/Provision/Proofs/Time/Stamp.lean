import Provision.Proofs.Memory.Numbers
import Provision.Routine.Clock

/-!
# Stamps

A stamp is a time as the fields of a layout hold it.  In memory a stamp reads back as it was put,
and it takes exactly the bytes of its layout.
-/

namespace Provision

/-! ## Stamps of a layout -/

namespace TimeLayout

/-- Width of the fields. -/
def width : TimeLayout -> Width
  | fields32 => .w32
  | fields64 => .w64

theorem bytes_width (layout : TimeLayout) :
    (MachineType.int layout.width).bytes = layout.fieldSize := by
  cases layout
  · rfl
  · rfl

end TimeLayout

structure Stamp (layout : TimeLayout) where
  seconds : BitVec layout.width.bits
  nanos : BitVec layout.width.bits
  deriving DecidableEq, Repr

namespace Stamp

variable {layout : TimeLayout}

/-- Address of the seconds in a time. -/
def secondsAt (layout : TimeLayout) (a : Memory.Address) : Memory.Address :=
  a + BitVec.ofInt 64 layout.secondsAt

/-- Address of the nanoseconds in a time. -/
def nanosAt (layout : TimeLayout) (a : Memory.Address) : Memory.Address :=
  a + BitVec.ofInt 64 layout.nanosAt

/-- Puts a stamp into memory, the nanoseconds first. -/
def put (stamp : Stamp layout) (memory : Memory) (a : Memory.Address) : Memory :=
  (memory.store (nanosAt layout a) (.int layout.width stamp.nanos)).store (secondsAt layout a)
    (.int layout.width stamp.seconds)

/-- The stamp that a time in memory is. -/
def read (layout : TimeLayout) (memory : Memory) (a : Memory.Address) : Stamp layout where
  seconds := memory.integer layout.width (secondsAt layout a)
  nanos := memory.integer layout.width (nanosAt layout a)

/-! ## Laws -/

/-- A byte of a time is one of its seconds or of its nanoseconds, and not of both. -/
theorem within_iff (layout : TimeLayout) (a b : Memory.Address) :
    Memory.Within a layout.size b ↔
      (Memory.Within (secondsAt layout a) layout.fieldSize b ∨
        Memory.Within (nanosAt layout a) layout.fieldSize b) := by
  unfold Memory.Within secondsAt nanosAt
  cases layout
  · simp only [TimeLayout.size, TimeLayout.fieldSize, TimeLayout.secondsAt, TimeLayout.nanosAt,
      BitVec.ofInt_natCast]
    bv_omega
  · simp only [TimeLayout.size, TimeLayout.fieldSize, TimeLayout.secondsAt, TimeLayout.nanosAt,
      BitVec.ofInt_natCast]
    bv_omega

theorem not_within_both (layout : TimeLayout) (a b : Memory.Address)
    (h : Memory.Within (nanosAt layout a) layout.fieldSize b) :
    ¬ Memory.Within (secondsAt layout a) layout.fieldSize b := by
  unfold Memory.Within secondsAt nanosAt at *
  cases layout
  · simp only [TimeLayout.fieldSize, TimeLayout.secondsAt, TimeLayout.nanosAt,
      BitVec.ofInt_natCast] at *
    bv_omega
  · simp only [TimeLayout.fieldSize, TimeLayout.secondsAt, TimeLayout.nanosAt,
      BitVec.ofInt_natCast] at *
    bv_omega

theorem read_put (stamp : Stamp layout) (memory : Memory) (a : Memory.Address) :
    read layout (stamp.put memory a) a = stamp := by
  have hnanos : (stamp.put memory a).integer layout.width (nanosAt layout a) = stamp.nanos := by
    unfold put
    rw [Memory.integer_store_of_disjoint, Memory.integer_store_self]
    intro b hb
    rw [TimeLayout.bytes_width] at hb ⊢
    exact not_within_both layout a b hb
  unfold read
  rw [hnanos, put, Memory.integer_store_self]

/-- Putting a stamp changes no byte outside its time. -/
theorem byteAt_put (stamp : Stamp layout) (memory : Memory) {a b : Memory.Address}
    (h : ¬ Memory.Within a layout.size b) : (stamp.put memory a).byteAt b = memory.byteAt b := by
  rw [within_iff, not_or] at h
  rcases h with ⟨hseconds, hnanos⟩
  rw [← TimeLayout.bytes_width] at hseconds hnanos
  rw [put, Memory.byteAt_store, Memory.byteAt_store]
  · exact hnanos
  · exact hseconds

/-! ## What clocks tell -/

/-- The quotient of a counter and its frequency. -/
def elapsed (counter frequency : BitVec 64) : Binary.Pattern .double :=
  (Binary.Pattern.ofInt .double counter.toInt).div (.ofInt .double frequency.toInt)

/-- The whole part of a number of seconds. -/
def whole (time : Binary.Pattern .double) : Binary.Pattern .double :=
  .ofInt .double (BitVec.ofInt 64 (time.toInt 64)).toInt

/-- A number as a field holds it: truncated and saturated. -/
def field (layout : TimeLayout) (x : Binary.Pattern .double) : BitVec layout.width.bits :=
  BitVec.ofInt layout.width.bits (x.toInt layout.width.bits)

/-- The stamp of a counter: whole seconds, and the rest in ticks. -/
def ofCounter (layout : TimeLayout) (counter frequency : BitVec 64) : Stamp layout where
  seconds := field layout (whole (elapsed counter frequency))
  nanos :=
    field layout
      (((elapsed counter frequency).sub (whole (elapsed counter frequency))).mul
        Routine.ticksInSecond)

/-- A stamp in milliseconds.  Its seconds are signed and its nanoseconds are not. -/
def millis (stamp : Stamp layout) : Binary.Pattern .double :=
  ((Binary.Pattern.ofInt .double stamp.seconds.toInt).add
    ((Binary.Pattern.ofInt .double stamp.nanos.toNat).div Routine.nanosInSecond)).mul
      Routine.millisInSecond

end Stamp
end Provision
