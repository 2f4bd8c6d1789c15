import Provision.Binary.Elementary
import Provision.Host.Convention
import Provision.Host.Process
import Provision.Host.Table

/-!
# Host functions

What names outside a module can stand for: functions of the program itself, and functions of the
libraries that its process has loaded.
-/

namespace Provision

/-- A function outside the module.  Those of the program itself are near its compiled code, and
those of libraries are not; a call that says only how far its target is reaches what is near. -/
structure HostFunction (σ : Type) where
  isNear : Bool
  run : Behaviour σ

namespace HostFunction

variable {σ : Type}

/-- A function of the program itself. -/
def ofProgram (run : Behaviour σ) : HostFunction σ where
  isNear := true
  run := run

/-- A function of a library. -/
def ofLibrary (run : Behaviour σ) : HostFunction σ where
  isNear := false
  run := run

end HostFunction

namespace Host

variable {σ : Type}

/-- A function of one number. -/
def unary (format : Binary.Format) (apply : Binary.Pattern format -> Binary.Pattern format) :
    Behaviour σ :=
  Convention.accepting [.float format] fun
    | [argument], world => do
        let x ← argument.asFloat? format
        some ([.float format (apply x)], world)
    | _, _ => none

/-- A function whose effect is not known. -/
def unknown : Behaviour σ :=
  fun _ _ => none

/-! ## The C library -/

/-- The elementary functions of the C library, in both formats. -/
def cFunctions : List (String × HostFunction σ) :=
  [ ("tanhf", .ofLibrary (unary .single Binary.Pattern.tanh)),
    ("tanh", .ofLibrary (unary .double Binary.Pattern.tanh)),
    ("expf", .ofLibrary (unary .single Binary.Pattern.exp)),
    ("exp", .ofLibrary (unary .double Binary.Pattern.exp)),
    ("logf", .ofLibrary (unary .single Binary.Pattern.log)),
    ("log", .ofLibrary (unary .double Binary.Pattern.log)),
    ("sinf", .ofLibrary (unary .single Binary.Pattern.sin)),
    ("sin", .ofLibrary (unary .double Binary.Pattern.sin)),
    ("cosf", .ofLibrary (unary .single Binary.Pattern.cos)),
    ("cos", .ofLibrary (unary .double Binary.Pattern.cos)) ]

/-- A table of the elementary functions. -/
def cLibrary : HostTable (HostFunction σ) :=
  .ofList cFunctions

/-- What a name stands for in the process: an elementary function, or something of its libraries
that can be bound but whose effect is not known. -/
def process? (name : String) : Option (HostFunction σ) :=
  match cFunctions.lookup name with
  | some function => some function
  | none => if Process.names.contains name then some (.ofLibrary unknown) else none

end Host
end Provision
