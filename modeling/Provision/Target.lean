import Provision.Text.Blank
import Provision.Text.Decimal

/-!
# Targets

A target tells which platform a module is for and how wide its native integer is.
-/

namespace Provision

/-! ## Platforms -/

/-- A family of operating systems. -/
inductive Platform where
  | posix
  | windows
  deriving DecidableEq, Repr, Inhabited

namespace Platform

/-- Platform of the machine that runs the code. -/
def host : Platform :=
  posix

def names : List (String × Platform) :=
  [ ("posix", posix), ("linux", posix), ("macos", posix), ("unix", posix),
    ("windows", windows), ("win32", windows), ("win", windows) ]

/-- Reads the name of a platform; ASCII letters may have either case. -/
def ofText? (name : String) : Option Platform :=
  names.lookup (name.map Char.toLower)

/-- The name that events show. -/
def title : Platform -> String
  | posix => "Posix"
  | windows => "Windows"

end Platform

/-! ## Width of the native integer -/

inductive IntWidth where
  | unspecified
  | bits8
  | bits16
  | bits32
  | bits64
  deriving DecidableEq, Repr, Inhabited

namespace IntWidth

/-- Bit count, zero when unspecified. -/
def bits : IntWidth -> Nat
  | unspecified => 0
  | bits8 => 8
  | bits16 => 16
  | bits32 => 32
  | bits64 => 64

/-- Bit count of native integers: 32 unless another one is specified. -/
def effectiveBits : IntWidth -> Nat
  | unspecified => 32
  | width => width.bits

/-- The width that has a bit count. -/
def ofBits? : Nat -> Option IntWidth
  | 0 => some unspecified
  | 8 => some bits8
  | 16 => some bits16
  | 32 => some bits32
  | 64 => some bits64
  | _ => none

theorem ofBits?_bits (width : IntWidth) : ofBits? width.bits = some width := by
  cases width
  all_goals rfl

theorem bits_of_ofBits? {n : Nat} {width : IntWidth} (h : ofBits? n = some width) :
    width.bits = n := by
  unfold ofBits? at h
  split at h
  all_goals cases h
  all_goals rfl

/-- Reads a bit count, with white space around it. -/
def ofText? (text : String) : Option IntWidth :=
  (Text.numeral? (Text.trim text.toList)).bind ofBits?

end IntWidth

/-! ## Target -/

structure Target where
  os : Platform
  intWidth : IntWidth
  deriving DecidableEq, Repr, Inhabited

namespace Target

/-- The machine that runs the code, with the native integer unspecified. -/
def host : Target where
  os := Platform.host
  intWidth := IntWidth.unspecified

def withOs (target : Target) (os : Platform) : Target :=
  { target with os := os }

def withIntWidth (target : Target) (width : IntWidth) : Target :=
  { target with intWidth := width }

def isWindows (target : Target) : Bool :=
  target.os == Platform.windows

end Target
end Provision
