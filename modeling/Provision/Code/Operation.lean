import Provision.Binary.Convert
import Provision.Scalar

/-!
# Operations

An operation computes one value from values computed before.  It has a type in every context, even
where its operands do not fit it; `fits` says whether they do.
-/

namespace Provision

abbrev ValueId :=
  Nat

inductive IntOperator where
  | add
  | sub
  | mul
  deriving DecidableEq, Repr

inductive FloatOperator where
  | add
  | sub
  | mul
  | div
  deriving DecidableEq, Repr

inductive FloatFunction where
  | sqrt
  | abs
  deriving DecidableEq, Repr

inductive Operation where
  | constInt (type : MachineType) (value : BitVec 64)
  | constFloat (format : Binary.Format) (value : Binary.Pattern format)
  | int (operator : IntOperator) (a b : ValueId)
  | float (operator : FloatOperator) (a b : ValueId)
  | unary (function : FloatFunction) (a : ValueId)
  | addImmediate (a : ValueId) (value : BitVec 64)
  | mulImmediate (a : ValueId) (value : BitVec 64)
  | signExtend (type : MachineType) (a : ValueId)
  | zeroExtend (type : MachineType) (a : ValueId)
  | reduce (type : MachineType) (a : ValueId)
  | ofSigned (type : MachineType) (a : ValueId)
  | ofUnsigned (type : MachineType) (a : ValueId)
  | toSigned (type : MachineType) (a : ValueId)
  | select (condition a b : ValueId)
  | equalsImmediate (a : ValueId) (value : BitVec 64)
  | less (a b : ValueId)
  deriving DecidableEq, Repr

namespace IntOperator

def apply {n : Nat} : IntOperator -> BitVec n -> BitVec n -> BitVec n
  | add, x, y => x + y
  | sub, x, y => x - y
  | mul, x, y => x * y

end IntOperator

namespace FloatOperator

def apply {f : Binary.Format} :
    FloatOperator -> Binary.Pattern f -> Binary.Pattern f -> Binary.Pattern f
  | add, x, y => x.add y
  | sub, x, y => x.sub y
  | mul, x, y => x.mul y
  | div, x, y => x.div y

end FloatOperator

namespace FloatFunction

def apply {f : Binary.Format} : FloatFunction -> Binary.Pattern f -> Binary.Pattern f
  | sqrt, x => x.sqrt
  | abs, x => x.abs

end FloatFunction

namespace Operation

def zero : MachineType -> Operation
  | .int width => constInt (.int width) 0
  | .float format => constFloat format 0

/-! ## Types -/

def operands : Operation -> List ValueId
  | constInt _ _ => []
  | constFloat _ _ => []
  | int _ a b => [a, b]
  | float _ a b => [a, b]
  | unary _ a => [a]
  | addImmediate a _ => [a]
  | mulImmediate a _ => [a]
  | signExtend _ a => [a]
  | zeroExtend _ a => [a]
  | reduce _ a => [a]
  | ofSigned _ a => [a]
  | ofUnsigned _ a => [a]
  | toSigned _ a => [a]
  | select condition a b => [condition, a, b]
  | equalsImmediate a _ => [a]
  | less a b => [a, b]

/-- The operation on other operands. -/
def rename (f : ValueId -> ValueId) : Operation -> Operation
  | constInt type value => constInt type value
  | constFloat format value => constFloat format value
  | int operator a b => int operator (f a) (f b)
  | float operator a b => float operator (f a) (f b)
  | unary function a => unary function (f a)
  | addImmediate a value => addImmediate (f a) value
  | mulImmediate a value => mulImmediate (f a) value
  | signExtend type a => signExtend type (f a)
  | zeroExtend type a => zeroExtend type (f a)
  | reduce type a => reduce type (f a)
  | ofSigned type a => ofSigned type (f a)
  | ofUnsigned type a => ofUnsigned type (f a)
  | toSigned type a => toSigned type (f a)
  | select condition a b => select (f condition) (f a) (f b)
  | equalsImmediate a value => equalsImmediate (f a) value
  | less a b => less (f a) (f b)

/-- Type of the result, given the types of the operands. -/
def resultType (typeOf : ValueId -> MachineType) : Operation -> MachineType
  | constInt type _ => type
  | constFloat format _ => .float format
  | int _ a _ => typeOf a
  | float _ a _ => typeOf a
  | unary _ a => typeOf a
  | addImmediate a _ => typeOf a
  | mulImmediate a _ => typeOf a
  | signExtend type _ => type
  | zeroExtend type _ => type
  | reduce type _ => type
  | ofSigned type _ => type
  | ofUnsigned type _ => type
  | toSigned type _ => type
  | select _ a _ => typeOf a
  | equalsImmediate _ _ => .i8
  | less _ _ => .i8

/-- Whether a type is an integer type that constants may have. -/
def isNarrow (type : MachineType) : Bool :=
  type.isInt && type.bits <= 64

/-- Whether the operands have types that the operation takes.  The type of an integer constant is
not looked at here. -/
def fits (typeOf : ValueId -> MachineType) : Operation -> Bool
  | constInt _ _ => true
  | constFloat _ _ => true
  | int _ a b => (typeOf a).isInt && typeOf a == typeOf b
  | float _ a b => (typeOf a).isFloat && typeOf a == typeOf b
  | unary _ a => (typeOf a).isFloat
  | addImmediate a _ => isNarrow (typeOf a)
  | mulImmediate a _ => isNarrow (typeOf a)
  | signExtend type a => type.isInt && (typeOf a).isInt && (typeOf a).bits < type.bits
  | zeroExtend type a => type.isInt && (typeOf a).isInt && (typeOf a).bits < type.bits
  | reduce type a => type.isInt && (typeOf a).isInt && type.bits < (typeOf a).bits
  | ofSigned type a => type.isFloat && isNarrow (typeOf a)
  | ofUnsigned type a => type.isFloat && isNarrow (typeOf a)
  | toSigned type a => isNarrow type && (typeOf a).isFloat
  | select condition a b => (typeOf condition).isInt && typeOf a == typeOf b
  | equalsImmediate a _ => (typeOf a).isInt
  | less a b => (typeOf a).isInt && typeOf a == typeOf b

/-! ## Results -/

/-- Applies a function to two integers of one width. -/
def onInts (apply : {n : Nat} -> BitVec n -> BitVec n -> BitVec n) :
    Scalar -> Scalar -> Option Scalar
  | .int w x, y => (y.asInt? w).map fun y => .int w (apply x y)
  | _, _ => none

/-- Applies a function to two numbers of one format. -/
def onFloats
    (apply : {f : Binary.Format} -> Binary.Pattern f -> Binary.Pattern f -> Binary.Pattern f) :
    Scalar -> Scalar -> Option Scalar
  | .float f x, y => (y.asFloat? f).map fun y => .float f (apply x y)
  | _, _ => none

/-- Gives an integer another width. -/
def resize (extend : {n : Nat} -> (m : Nat) -> BitVec n -> BitVec m) :
    MachineType -> Scalar -> Option Scalar
  | .int w, .int _ x => some (.int w (extend w.bits x))
  | _, _ => none

/-- Converts an integer to the number that it stands for. -/
def toFloat (number : {n : Nat} -> BitVec n -> Int) : MachineType -> Scalar -> Option Scalar
  | .float f, .int _ x => some (.float f (Binary.Pattern.ofInt f (number x)))
  | _, _ => none

def toInt : MachineType -> Scalar -> Option Scalar
  | .int w, .float _ x => some (.int w (BitVec.ofInt w.bits (x.toInt w.bits)))
  | _, _ => none

/-- The value of an operation, unless an operand is missing or does not fit. -/
def eval (value? : ValueId -> Option Scalar) : Operation -> Option Scalar
  | constInt (.int w) value => some (.int w (value.setWidth w.bits))
  | constInt (.float _) _ => none
  | constFloat format value => some (.float format value)
  | int operator a b => do onInts operator.apply (← value? a) (← value? b)
  | float operator a b => do onFloats operator.apply (← value? a) (← value? b)
  | unary function a => do
      match ← value? a with
      | .float f x => some (.float f (function.apply x))
      | .int _ _ => none
  | addImmediate a value => do
      match ← value? a with
      | .int w x => some (.int w (x + value.setWidth w.bits))
      | .float _ _ => none
  | mulImmediate a value => do
      match ← value? a with
      | .int w x => some (.int w (x * value.setWidth w.bits))
      | .float _ _ => none
  | signExtend type a => do resize BitVec.signExtend type (← value? a)
  | zeroExtend type a => do resize BitVec.setWidth type (← value? a)
  | reduce type a => do resize BitVec.setWidth type (← value? a)
  | ofSigned type a => do toFloat BitVec.toInt type (← value? a)
  | ofUnsigned type a => do toFloat (fun x => (x.toNat : Int)) type (← value? a)
  | toSigned type a => do toInt type (← value? a)
  | select condition a b => do
      match ← value? condition with
      | .int _ x => if x = 0 then value? b else value? a
      | .float _ _ => none
  | equalsImmediate a value => do
      match ← value? a with
      | .int w x => some (.truth (x = value.signExtend w.bits))
      | .float _ _ => none
  | less a b => do
      match ← value? a with
      | .int w x => ((← value? b).asInt? w).map fun y => .truth (x.slt y)
      | .float _ _ => none

/-! ## Other operands -/

theorem operands_rename (f : ValueId -> ValueId) (operation : Operation) :
    (operation.rename f).operands = operation.operands.map f := by
  cases operation
  all_goals rfl

theorem resultType_rename (f : ValueId -> ValueId) (typeOf : ValueId -> MachineType)
    (operation : Operation) :
    (operation.rename f).resultType typeOf =
      operation.resultType fun value => typeOf (f value) := by
  cases operation
  all_goals rfl

/-- An operation on other operands computes what the operation does where those stand for its
own. -/
theorem eval_rename (f : ValueId -> ValueId) (value? : ValueId -> Option Scalar)
    (operation : Operation) :
    (operation.rename f).eval value? = operation.eval fun value => value? (f value) := by
  cases operation
  case constInt type value =>
      cases type
      all_goals rfl
  all_goals rfl

end Operation
end Provision
