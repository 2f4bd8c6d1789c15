import Provision.DataType

/-!
# Layouts of a time

A time in memory is two consecutive integers of one type with natural alignment: whole seconds,
then nanoseconds.
-/

namespace Provision

inductive TimeLayout where
  | fields32
  | fields64
  deriving DecidableEq, Repr, Inhabited

namespace TimeLayout

/-- The layout with fields of a type; any type but the 32 bit integer gives 64 bit fields. -/
def ofField : DataType -> TimeLayout
  | .int32 => fields32
  | _ => fields64

/-- The layout that C libraries use where pointers have the given width. -/
def ofPointerBits (bits : Nat) : TimeLayout :=
  if bits <= 32 then fields32 else fields64

def field : TimeLayout -> DataType
  | fields32 => .int32
  | fields64 => .int64

def fieldSize : TimeLayout -> Nat
  | fields32 => 4
  | fields64 => 8

def secondsAt (_ : TimeLayout) : Nat :=
  0

def nanosAt (layout : TimeLayout) : Nat :=
  layout.fieldSize

def size (layout : TimeLayout) : Nat :=
  2 * layout.fieldSize

/-- The alignment, as a power of two. -/
def alignShift : TimeLayout -> Nat
  | fields32 => 2
  | fields64 => 3

end TimeLayout
end Provision
