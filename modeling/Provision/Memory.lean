import Provision.Scalar

/-!
# Memory

Bytes at 64 bit addresses.  What was never written is zero.  Values are stored with the least
significant byte first, and addresses wrap.
-/

namespace Provision

/-- Bytes keyed by the binary places of a number, the lowest place first. -/
inductive ByteTree where
  | blank
  | byte (value : BitVec 8)
  | fork (even odd : ByteTree)
  deriving DecidableEq, Repr, Inhabited

namespace ByteTree

/-- The byte under the lowest `depth` places of a key. -/
def get : (depth key : Nat) -> ByteTree -> BitVec 8
  | 0, _, byte value => value
  | depth + 1, key, fork even odd =>
      if key % 2 = 0 then even.get depth (key / 2) else odd.get depth (key / 2)
  | _, _, _ => 0

/-- Puts a byte under the lowest `depth` places of a key. -/
def set (value : BitVec 8) : (depth key : Nat) -> ByteTree -> ByteTree
  | 0, _, _ => byte value
  | depth + 1, key, fork even odd =>
      if key % 2 = 0 then fork (even.set value depth (key / 2)) odd
      else fork even (odd.set value depth (key / 2))
  | depth + 1, key, _ =>
      if key % 2 = 0 then fork (blank.set value depth (key / 2)) blank
      else fork blank (blank.set value depth (key / 2))

end ByteTree

structure Memory where
  bytes : ByteTree
  deriving DecidableEq, Repr, Inhabited

namespace Memory

abbrev Address :=
  BitVec 64

def empty : Memory where
  bytes := .blank

/-! ## Bytes -/

def byteAt (memory : Memory) (a : Address) : BitVec 8 :=
  memory.bytes.get 64 a.toNat

def setByte (memory : Memory) (a : Address) (value : BitVec 8) : Memory where
  bytes := memory.bytes.set value 64 a.toNat

/-! ## Runs of bytes -/

/-- The number that `count` bytes hold. -/
def read (memory : Memory) (a : Address) : (count : Nat) -> Nat
  | 0 => 0
  | count + 1 => (memory.byteAt a).toNat + 256 * memory.read (a + 1) count

/-- Puts the lowest `count` bytes of a number. -/
def write (memory : Memory) (a : Address) : (count : Nat) -> Nat -> Memory
  | 0, _ => memory
  | count + 1, n => (memory.setByte a (BitVec.ofNat 8 n)).write (a + 1) count (n / 256)

/-! ## Values -/

def load (memory : Memory) (type : MachineType) (a : Address) : Scalar :=
  .ofNat type (memory.read a type.bytes)

def store (memory : Memory) (a : Address) (value : Scalar) : Memory :=
  memory.write a value.type.bytes value.toNat

end Memory
end Provision
