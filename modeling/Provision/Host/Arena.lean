import Provision.Memory

/-!
# Arenas

Named runs of elements in memory, apart from each other and from the stack.
-/

namespace Provision

structure Buffer where
  name : String
  element : MachineType
  address : Memory.Address
  length : Nat
  deriving Repr

namespace Buffer

/-- Address of an element. -/
def addressOf (buffer : Buffer) (index : Int) : Memory.Address :=
  buffer.address + BitVec.ofInt 64 (index * buffer.element.bytes)

/-- The elements that a memory holds. -/
def contents (buffer : Buffer) (memory : Memory) : List Scalar :=
  (List.range buffer.length).map fun (index : Nat) =>
    memory.load buffer.element (buffer.addressOf index)

/-- Puts elements into memory, one after another. -/
def fill (address : Memory.Address) (memory : Memory) : List Scalar -> Memory
  | [] => memory
  | first :: rest =>
      fill (address + BitVec.ofNat 64 first.type.bytes) (memory.store address first) rest

end Buffer

/-- A memory with buffers in it. -/
structure Arena where
  memory : Memory
  buffers : List Buffer
  next : Nat

namespace Arena

def empty : Arena where
  memory := .empty
  buffers := []
  next := 0x10000

/-- Top of the stack, above every buffer. -/
def stackTop : Memory.Address :=
  0x7fffffff0000

/-- Distance between the end of a buffer and the start of the next one, at least. -/
def gap : Nat :=
  0x1000

/-- Adds a buffer that holds the elements. -/
def add (arena : Arena) (name : String) (element : MachineType) (elements : List Scalar) : Arena :=
  let address := BitVec.ofNat 64 arena.next
  let size := elements.length * element.bytes
  { memory := Buffer.fill address arena.memory elements
    buffers :=
      arena.buffers ++
        [{ name := name, element := element, address := address, length := elements.length }]
    next := arena.next + (size / gap + 2) * gap }

def find? (arena : Arena) (name : String) : Option Buffer :=
  arena.buffers.find? fun buffer => buffer.name = name

end Arena
end Provision
