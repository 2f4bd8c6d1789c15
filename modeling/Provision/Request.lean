import Provision.Code.Operation
import Provision.Fault
import Provision.Kernel
import Provision.Registry

/-!
# Requests

What a provider can be asked for, and the symbol that each answer goes by.
-/

namespace Provision

/-! ## Fixed symbols -/

namespace Symbol

def getThreads : Symbol := shared "openblas_get_num_threads"
def setThreads : Symbol := shared "openblas_set_num_threads"
def clock : Symbol := shared "clock_gettime"
def queryCounter : Symbol := shared "QueryPerformanceCounter"
def queryFrequency : Symbol := shared "QueryPerformanceFrequency"

end Symbol

/-! ## Elementary functions -/

inductive ElementaryFunction where
  | sqrt
  | abs
  | exp
  | log
  | sin
  | cos
  | tanh
  deriving DecidableEq, Repr

namespace ElementaryFunction

def all : List ElementaryFunction :=
  [sqrt, abs, exp, log, sin, cos, tanh]

def name : ElementaryFunction -> String
  | sqrt => "sqrt"
  | abs => "fabs"
  | exp => "exp"
  | log => "log"
  | sin => "sin"
  | cos => "cos"
  | tanh => "tanh"

/-- The instruction that computes the function, if there is one. -/
def instruction? : ElementaryFunction -> Option FloatFunction
  | sqrt => some .sqrt
  | abs => some .abs
  | _ => none

/-- The symbol for a type: the name in the C library, or that of a wrapper around the
instruction. -/
def symbol (function : ElementaryFunction) (type : DataType) : Except Fault Symbol :=
  match type, function.instruction? with
  | .float32, some _ => .ok (.shared ("intrinsic." ++ function.name ++ ".f32"))
  | .float64, some _ => .ok (.shared ("intrinsic." ++ function.name ++ ".f64"))
  | .float32, none => .ok (.shared (function.name ++ "f"))
  | .float64, none => .ok (.shared function.name)
  | other, _ => .error (.unsupported function.name other)

/-- From a number of a type to a number of the same type. -/
def signature (type : DataType) : Signature :=
  .query [type] type

end ElementaryFunction

/-! ## Kernels -/

namespace Binding

/-- Name of the library in the symbols of kernels. -/
def prefixText : Binding -> String
  | library => "cblas_"
  | module => "noblas_"

end Binding

namespace Kernel

/-- The symbol for a type: library, letter of the precision, kernel. -/
def symbol (kernel : Kernel) (element : DataType) (binding : Binding) : Except Fault Symbol :=
  match element with
  | .float32 => .ok (.shared (binding.prefixText ++ "s" ++ kernel.name))
  | .float64 => .ok (.shared (binding.prefixText ++ "d" ++ kernel.name))
  | other => .error (.unsupported kernel.name other)

end Kernel

/-! ## Dot products -/

/-- The element types that there is a dot product of. -/
inductive DotElement where
  | float
  | int
  deriving DecidableEq, Repr

namespace DotElement

def type : DotElement -> DataType
  | float => .float64
  | int => .int32

def operation : DotElement -> String
  | float => "DotProductFloat"
  | int => "DotProductInt"

/-- The symbol in a module. -/
def symbol (element : DotElement) (module : String) : Symbol :=
  .ofModule module element.operation

/-- Element count, two vectors, result. -/
def signature (element : DotElement) : Signature :=
  .command [.int32, element.type.pointerTo, element.type.pointerTo, element.type.pointerTo]

end DotElement

/-! ## Current time -/

/-- The symbol in a module of the function that tells the current time. -/
def Symbol.currentTime (module : String) : Symbol :=
  .ofModule module "GetTime"

/-! ## Requests -/

inductive Request where
  | elementary (function : ElementaryFunction) (type : DataType)
  | kernel (kernel : Kernel) (element : DataType) (binding : Option Binding)
  | getThreads
  | setThreads
  | dot (element : DotElement)
  | clock
  | currentTime
  deriving DecidableEq, Repr

/-- What a provider does where a request leaves it open. -/
structure Config where
  binding : Binding
  deriving DecidableEq, Repr

namespace Config

def standard : Config where
  binding := .module

end Config
end Provision
