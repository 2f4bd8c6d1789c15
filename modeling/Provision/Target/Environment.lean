import Provision.Event
import Provision.Request

/-!
# Environment variables

A target and a configuration can be read from environment variables.  A value is a string of
bytes; one that is not text counts as not set.
-/

namespace Provision

/-- Names of variables with the bytes of their values. -/
structure Environment where
  entries : List (String × List UInt8)
  deriving Repr

namespace Environment

def osName : String := "EMBER_TARGET_OS"
def intBitsName : String := "EMBER_TARGET_INT_BITS"
def bindingName : String := "EMBER_USE_BLAS"

/-- The value of a variable that holds text. -/
def text? (environment : Environment) (name : String) : Option String :=
  (environment.entries.lookup name).bind fun bytes =>
    String.fromUTF8? (ByteArray.mk bytes.toArray)

/-- Reads a variable; a value that cannot be read gives the fallback and an event. -/
def setting {α : Type} (environment : Environment) (name : String) (ofText? : String -> Option α)
    (fallback : α) (ignored : String -> Event) : α × Log :=
  match environment.text? name with
  | none => (fallback, [])
  | some text =>
      match ofText? text with
      | some value => (value, [])
      | none => (fallback, [ignored text])

/-- The target that the variables describe, the host where they are silent. -/
def target (environment : Environment) : Target × Log :=
  let (os, osLog) := environment.setting osName Platform.ofText? Platform.host .unknownOs
  let (width, widthLog) :=
    environment.setting intBitsName IntWidth.ofText? IntWidth.unspecified .unsupportedIntBits
  ({ os := os, intWidth := width }, osLog ++ widthLog)

/-- The values that ask for library kernels. -/
def affirmations : List String :=
  ["1", "true", "TRUE", "yes"]

def config (environment : Environment) : Config where
  binding :=
    match environment.text? bindingName with
    | some text => if affirmations.contains text then .library else .module
    | none => .module

end Environment
end Provision
