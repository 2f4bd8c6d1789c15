import Provision.Memory

/-!
# Stack frames

A frame holds the stack slots of a procedure one above the other.  Places in it are counted upwards
from its bottom.
-/

namespace Provision

/-- Room on the stack, aligned to a power of two. -/
structure StackSlot where
  size : Nat
  alignShift : Nat
  deriving DecidableEq, Repr

namespace StackSlot

/-- The least multiple of a unit that is not less than a number. -/
def roundUp (unit n : Nat) : Nat :=
  (n + (unit - 1)) / unit * unit

/-- A slot is aligned to eight bytes at least. -/
def alignment (slot : StackSlot) : Nat :=
  max 8 (2 ^ slot.alignShift)

/-- Where slots start, above other slots that take the lowest bytes. -/
def offsets : (taken : Nat) -> List StackSlot -> List Nat
  | _, [] => []
  | taken, slot :: rest =>
      let start := roundUp slot.alignment taken
      start :: offsets (start + slot.size) rest

/-- Where slots end, above other slots that take the lowest bytes. -/
def extent : (taken : Nat) -> List StackSlot -> Nat
  | taken, [] => taken
  | taken, slot :: rest => extent (roundUp slot.alignment taken + slot.size) rest

/-- The size of a frame, a multiple of 16. -/
def frameSize (slots : List StackSlot) : Nat :=
  roundUp 16 (extent 0 slots)

/-- Whether a frame can be made: an alignment has at most 31 bits, and so has the size. -/
def fitFrame (slots : List StackSlot) : Bool :=
  slots.all (fun slot => decide (slot.alignShift < 32)) && decide (frameSize slots < 2 ^ 31)

/-- The bottom of a frame below the top of a stack. -/
def bottom (slots : List StackSlot) (top : Memory.Address) : Memory.Address :=
  top - BitVec.ofNat 64 (frameSize slots)

/-- Addresses of the slots of a frame. -/
def addresses (slots : List StackSlot) (bottom : Memory.Address) : List Memory.Address :=
  (offsets 0 slots).map fun offset => bottom + BitVec.ofNat 64 offset

end StackSlot
end Provision
