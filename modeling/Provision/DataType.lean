/-!
# Data types

The types that signatures are written in.  How many bits a native integer or a pointer takes is
chosen only when a function is built for a target.
-/

namespace Provision

inductive DataType where
  | int32
  | int64
  | float32
  | float64
  | native
  | pointerTo (base : DataType)
  deriving DecidableEq, Repr, Inhabited

namespace DataType

/-- Size in bytes, where it does not depend on the target. -/
def bytes? : DataType -> Option Nat
  | int32 => some 4
  | int64 => some 8
  | float32 => some 4
  | float64 => some 8
  | native => none
  | pointerTo _ => none

def isFloat : DataType -> Bool
  | float32 => true
  | float64 => true
  | _ => false

def isPointer : DataType -> Bool
  | pointerTo _ => true
  | _ => false

/-- The type that a pointer points to. -/
def base? : DataType -> Option DataType
  | pointerTo base => some base
  | _ => none

/-- The types of the host's own numbers. -/
def ofHost : List DataType :=
  [int32, int64, float32, float64]

/-! ## Written form -/

/-- A star for each pointer, then the name of the innermost type. -/
def text : DataType -> String
  | int32 => "i32"
  | int64 => "i64"
  | float32 => "f32"
  | float64 => "f64"
  | native => "int"
  | pointerTo base => "*" ++ base.text

/-- The type that has a name, which holds no star. -/
def ofName? (name : String) : Option DataType :=
  [int32, int64, float32, float64, native].find? fun type => type.text = name

def ofChars? : List Char -> Option DataType
  | '*' :: rest => (ofChars? rest).map pointerTo
  | chars => ofName? (String.ofList chars)

/-- Reads the written form. -/
def ofText? (text : String) : Option DataType :=
  ofChars? text.toList

/-! ## Laws -/

theorem ofChars?_text (type : DataType) : ofChars? type.text.toList = some type := by
  induction type with
  | pointerTo base ih =>
      have htext : (pointerTo base).text.toList = '*' :: base.text.toList := by
        simp [text]
      rw [htext, ofChars?, ih]
      rfl
  | int32 => decide
  | int64 => decide
  | float32 => decide
  | float64 => decide
  | native => decide

/-- What was written reads back. -/
theorem ofText?_text (type : DataType) : ofText? type.text = some type :=
  ofChars?_text type

end DataType
end Provision
