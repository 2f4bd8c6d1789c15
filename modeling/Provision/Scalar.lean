import Provision.Binary.Format

/-!
# Machine values

The values that emitted code works on: integers of a fixed width and floating-point numbers of a
binary format.
-/

namespace Provision

/-! ## Types -/

inductive Width where
  | w8
  | w16
  | w32
  | w64
  | w128
  deriving DecidableEq, Repr, Inhabited

namespace Width

abbrev bits : Width -> Nat
  | w8 => 8
  | w16 => 16
  | w32 => 32
  | w64 => 64
  | w128 => 128

end Width

/-- Type of a machine value. -/
inductive MachineType where
  | int (width : Width)
  | float (format : Binary.Format)
  deriving DecidableEq, Repr, Inhabited

namespace MachineType

def i8 : MachineType := int .w8
def i16 : MachineType := int .w16
def i32 : MachineType := int .w32
def i64 : MachineType := int .w64
def i128 : MachineType := int .w128
def f32 : MachineType := float .single
def f64 : MachineType := float .double

def bits : MachineType -> Nat
  | int width => width.bits
  | float format => format.bits

def bytes (type : MachineType) : Nat :=
  type.bits / 8

def isInt : MachineType -> Bool
  | int _ => true
  | float _ => false

def isFloat : MachineType -> Bool
  | int _ => false
  | float _ => true

/-- Written form: the kind and the number of bits. -/
def text : MachineType -> String
  | int .w8 => "i8"
  | int .w16 => "i16"
  | int .w32 => "i32"
  | int .w64 => "i64"
  | int .w128 => "i128"
  | float .single => "f32"
  | float .double => "f64"

/-- Reads the written form. -/
def ofText? (text : String) : Option MachineType :=
  [i8, i16, i32, i64, i128, f32, f64].find? fun t => t.text = text

/-- The integer type of the same number of bits. -/
def integer : MachineType -> MachineType
  | int width => int width
  | float .single => i32
  | float .double => i64

end MachineType

/-! ## Values -/

/-- A machine value with its type. -/
inductive Scalar where
  | int (width : Width) (value : BitVec width.bits)
  | float (format : Binary.Format) (value : Binary.Pattern format)
  deriving DecidableEq, Repr

namespace Scalar

def type : Scalar -> MachineType
  | int width _ => .int width
  | float format _ => .float format

/-- The bits of a value, as a natural number. -/
def toNat : Scalar -> Nat
  | int _ value => value.toNat
  | float _ value => value.toNat

/-- The value of a type with the given bits, of which it takes as many as it has. -/
def ofNat : MachineType -> Nat -> Scalar
  | .int width, n => int width (BitVec.ofNat width.bits n)
  | .float format, n => float format (BitVec.ofNat format.bits n)

/-- The value of a type whose bits are all zero. -/
def zero (type : MachineType) : Scalar :=
  ofNat type 0

/-- The integer of the given width that a value is, if it is one. -/
def asInt? (width : Width) : Scalar -> Option (BitVec width.bits)
  | int w value => if h : w = width then some (h ▸ value) else none
  | float _ _ => none

/-- The number of the given format that a value is, if it is one. -/
def asFloat? (format : Binary.Format) : Scalar -> Option (Binary.Pattern format)
  | int _ _ => none
  | float f value => if h : f = format then some (h ▸ value) else none

/-- The address that a value is, if it is one. -/
def asAddress? (value : Scalar) : Option (BitVec 64) :=
  value.asInt? .w64

/-- The signed number that an integer stands for; zero for other values. -/
def signed : Scalar -> Int
  | int _ value => value.toInt
  | float _ _ => 0

/-- Whether a value is a float that is not a number. -/
def isNaN : Scalar -> Bool
  | int _ _ => false
  | float _ x => x.isNaN

/-- The value of another type of the same kind with the same low bits. -/
def recast? (value : Scalar) (type : MachineType) : Option Scalar :=
  if value.type.isInt = type.isInt then some (ofNat type value.toNat) else none

def address (a : BitVec 64) : Scalar :=
  int .w64 a

def truth (b : Bool) : Scalar :=
  int .w8 (if b then 1 else 0)

/-! ## Laws -/

theorem type_ofNat (type : MachineType) (n : Nat) : (ofNat type n).type = type := by
  cases type
  · rfl
  · rfl

theorem type_zero (type : MachineType) : (zero type).type = type :=
  type_ofNat type 0

/-- The bytes of a type hold all of its bits. -/
theorem two_pow_bits (type : MachineType) : 2 ^ type.bits = 256 ^ type.bytes := by
  cases type with
  | int width =>
      cases width
      all_goals rfl
  | float format =>
      cases format
      all_goals rfl

/-- A value can be had back from its bits. -/
theorem ofNat_toNat_mod (value : Scalar) :
    ofNat value.type (value.toNat % 256 ^ value.type.bytes) = value := by
  rw [← two_pow_bits]
  cases value with
  | int width x =>
      have hmod : x.toNat % 2 ^ width.bits = x.toNat := Nat.mod_eq_of_lt x.isLt
      simp [ofNat, type, toNat, MachineType.bits, hmod]
  | float format x =>
      have hmod : x.toNat % 2 ^ format.bits = x.toNat := Nat.mod_eq_of_lt x.isLt
      simp [ofNat, type, toNat, MachineType.bits, hmod]

theorem ofNat_toNat (value : Scalar) : ofNat value.type value.toNat = value := by
  cases value with
  | int width x => simp [ofNat, type, toNat]
  | float format x => simp [ofNat, type, toNat]

theorem recast?_type (value : Scalar) : value.recast? value.type = some value := by
  simp [recast?, ofNat_toNat]

theorem asInt?_int (width : Width) (x : BitVec width.bits) :
    (int width x).asInt? width = some x := by
  simp [asInt?]

theorem asFloat?_float (format : Binary.Format) (x : Binary.Pattern format) :
    (float format x).asFloat? format = some x := by
  simp [asFloat?]

theorem asAddress?_address (a : BitVec 64) : (address a).asAddress? = some a :=
  asInt?_int .w64 a

end Scalar
end Provision
