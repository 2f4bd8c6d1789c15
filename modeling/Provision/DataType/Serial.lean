import Provision.DataType

/-!
# Serialized data types

The serialized form of a data type is a tree: a type without a base is its tag, a pointer is an
object whose only member is the pointer tag with the base.  When reading, a type without a base
may also be an object whose only member is its tag with `null`.
-/

namespace Provision

/-- A tree of serialized data. -/
inductive Document where
  | null
  | bool (value : Bool)
  | number (mantissa : Int) (places : Nat)
  | text (value : String)
  | array (items : List Document)
  | object (members : List (String × Document))
  deriving Repr, Inhabited

namespace DataType

/-! ## Tags -/

def pointerTag : String :=
  "Ptr"

/-- The types without a base, under their tags. -/
def plainTags : List (String × DataType) :=
  [ ("Int32", int32), ("Int64", int64), ("Float32", float32), ("Float64", float64),
    ("NativeInt", native) ]

def ofTag? (tag : String) : Option DataType :=
  plainTags.lookup tag

/-! ## Writing and reading -/

def encode : DataType -> Document
  | int32 => .text "Int32"
  | int64 => .text "Int64"
  | float32 => .text "Float32"
  | float64 => .text "Float64"
  | native => .text "NativeInt"
  | pointerTo base => .object [(pointerTag, base.encode)]

/-- Reads a payload under a tag, given the type that the payload itself reads as. -/
def ofTagged? (tag : String) (payload : Document) (base : Option DataType) : Option DataType :=
  if tag = pointerTag then base.map pointerTo
  else
    match payload with
    | .null => ofTag? tag
    | _ => none

def decode? : Document -> Option DataType
  | .text tag => ofTag? tag
  | .object [(tag, payload)] => ofTagged? tag payload (decode? payload)
  | _ => none

/-- What was written reads back. -/
theorem decode?_encode (type : DataType) : decode? type.encode = some type := by
  induction type with
  | pointerTo base ih =>
      simp only [encode, decode?, ofTagged?, ih]
      rfl
  | int32 => rfl
  | int64 => rfl
  | float32 => rfl
  | float64 => rfl
  | native => rfl

end DataType
end Provision
