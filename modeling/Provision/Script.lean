import Provision.Code.Operation
import Provision.Code.Region
import Provision.DataType
import Provision.Function

/-!
# Scripts

A script says step by step how the body of a function is emitted.  Values and locals go by names;
binding a name again hides the value that it had.
-/

namespace Provision

inductive Step where
  | param (result : String) (index : Nat)
  | constInt (result : String) (type : DataType) (value : Int)
  | constFloat (result : String) (type : DataType) (value : Binary.Pattern .double)
  | zero (result : String) (type : DataType)
  | add (result : String) (type : DataType) (a b : String)
  | mul (result : String) (type : DataType) (a b : String)
  | multiplyAdd (result a b c : String)
  | int (result : String) (operator : IntOperator) (a b : String)
  | float (result : String) (operator : FloatOperator) (a b : String)
  | unary (result : String) (function : FloatFunction) (a : String)
  | extend128 (result a : String)
  | fromSigned (result : String) (type : DataType) (a : String)
  | fromUnsigned (result : String) (type : DataType) (a : String)
  | truncate (result : String) (type : DataType) (a : String)
  | select (result condition a b : String)
  | equals (result a : String) (value : Int)
  | addressAt (result : String) (element : DataType) (base index : String)
  | loadAt (result : String) (element : DataType) (base index : String)
  | storeAt (element : DataType) (base index value : String)
  | load (result : String) (type : DataType) (address : String) (offset : Int)
  | store (value address : String) (offset : Int)
  | reserve (result : String) (size alignShift : Nat)
  | newLocal (name : String) (type : DataType) (init : String)
  | readLocal (result name : String)
  | assignLocal (name value : String)
  | call (results : List String) (callee : FuncId) (arguments : List String)
  | callFirst (result : String) (callee : FuncId) (arguments : List String)
  | fail (type : DataType)
  | note (type : DataType)
  deriving DecidableEq, Repr

/-- A loop whose counter runs from zero up to a bound. -/
structure CountedLoop where
  bound : String
  counter : String
  deriving DecidableEq, Repr

abbrev Script :=
  Region Step CountedLoop

/-- A script and the values that it returns in the end. -/
structure Body where
  script : Script
  returns : List String
  deriving DecidableEq, Repr

namespace Script

/-- A loop with its body, then the rest. -/
def countUp (bound counter : String) (body : Script) (rest : Script) : Script :=
  .loop { bound := bound, counter := counter } body rest

/-- Types of the locals that a script makes, in the order in which it makes them. -/
def locals : Script -> List DataType
  | .done => []
  | .step (.newLocal _ type _) rest => type :: locals rest
  | .step _ rest => locals rest
  | .loop _ body rest => locals body ++ locals rest

end Script
end Provision
